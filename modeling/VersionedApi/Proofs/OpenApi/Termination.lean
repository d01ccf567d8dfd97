import VersionedApi.Proofs.Description.WellFormed
import VersionedApi.Proofs.OpenApi.Operations
import VersionedApi.Proofs.OpenApi.ProblemCount

/-!
# Writing a document ends

A reference to a list or map goes on to the type that it holds, and nothing stops
it on the way.  It ends because in a loaded version every list and map comes after
the type that it holds, also where structs refer to each other: their attributes
are followed by their own schemas, not by the references to them.
-/

namespace VersionedApi.OpenApi

open VersionedApi.Document VersionedApi.Model

/-! ## References without a bound -/

variable {naming : Naming} {version : Version}

/-- In an ordered version only earlier types matter to what is written for a type in use. -/
theorem describe_congr (ordered : version.Ordered) {first second : TypeId → Draft FieldStep}
    {id : TypeId} (agree : id.index < version.types.length →
      ∀ element, element.index < id.index → first element = second element) :
    describe naming version first id = describe naming version second id := by
  unfold describe
  cases found : version.type? id with
  | none => rfl
  | some type =>
      have used : id.index < version.types.length := (List.getElem?_eq_some_iff.1 found).1
      cases kind : type.kind with
      | list element =>
          have earlier := ordered id type element found (by rw [kind]; rfl)
          simp only [kind, agree used element earlier]
      | map element =>
          have earlier := ordered id type element found (by rw [kind]; rfl)
          simp only [kind, agree used element earlier]
      | _ => simp only [kind]

/-- Two bounds beyond the number of a type make no difference to it. -/
theorem referenceWithin_eq_of_lt (ordered : version.Ordered) {depth more : Nat} {id : TypeId}
    (deep : id.index < depth) (deeper : id.index < more) :
    referenceWithin naming version depth id = referenceWithin naming version more id := by
  induction depth generalizing more id with
  | zero => cases deep
  | succ depth ih =>
      cases more with
      | zero => cases deeper
      | succ more =>
          refine describe_congr ordered fun _ element earlier => ?_
          exact ih (by omega) (by omega)

/-- The bound is never reached: a reference is written as if there were none. -/
theorem reference_eq (ordered : version.Ordered) :
    reference naming version = describe naming version (reference naming version) := by
  funext id
  rw [reference, referenceWithin_succ]
  refine describe_congr ordered fun used element earlier => ?_
  exact referenceWithin_eq_of_lt ordered (by omega) (by omega)

/-- No other way to write references agrees with itself. -/
theorem eq_reference (ordered : version.Ordered) {written : TypeId → Draft FieldStep}
    (solves : written = describe naming version written) : written = reference naming version := by
  funext id
  induction place : id.index using Nat.strongRecOn generalizing id with
  | ind index ih =>
      subst place
      rw [solves, reference_eq ordered]
      exact describe_congr ordered fun _ element earlier => ih element.index earlier element rfl

/-! ## Calls -/

/-- The calls that the writing of a document is made of. -/
inductive Call where
  | document
  | items
  /-- Look for paths behind a resource. -/
  | walk (visited : List ResourceId) (resource : Resource)
  | item (key : String) (path : Path)
  | operation (path : Path) (method : Method)
  | schemas
  | schema (type : ApiType)
  | reference (id : TypeId)

namespace Call

variable (conventions : Conventions) (version : Version)

def inner : Call → List Call
  | document => [items, schemas]
  | items =>
    (version.root.bind fun root => (version.resource? root).map (walk [root])).toList ++
      (distinctPaths version).map fun pair => item pair.1 pair.2
  | walk visited resource =>
    (resource.locators.filter fun locator => locator.target ∉ visited).filterMap fun locator =>
      (version.resource? locator.target).map (walk (locator.target :: visited))
  | item _ path =>
    match version.endOf? path with
    | none => []
    | some resource => (leading conventions [] resource.methods).map (operation path)
  | operation _ method =>
    (described conventions version method).map fun parameter => reference parameter.type
  | schemas => version.types.map schema
  | schema type =>
    if type.kind.hasSchema && conventions.naming.schemaName type == errorSchemaName then []
    else type.kind.attributes.map fun attr => reference attr.type
  | reference id => ((version.type? id).bind (·.kind.element?)).toList.map reference

/-- What a call writes; to look for paths writes nothing. -/
def draft : Call → Draft FieldStep
  | document => specification conventions version
  | items => pathItems conventions version
  | walk _ _ => Draft.none
  | item key path => pathItem conventions version key path
  | operation path method => OpenApi.operation conventions version path method
  | schemas => OpenApi.schemas conventions version
  | schema type => typeSchema conventions version type
  | reference id => OpenApi.reference conventions.naming version id

/-- The methods whose verb a method before them has, or that is in `taken`. -/
def late : List String → List Method → List Method
  | _, [] => []
  | taken, method :: rest =>
    if operationKey conventions method ∈ taken then method :: late taken rest
    else late (operationKey conventions method :: taken) rest

def own : Call → List Problem
  | item key path =>
    match version.endOf? path with
    | none => [.danglingPath key]
    | some resource =>
      (late conventions [] resource.methods).map fun method =>
        .repeatedVerb method.name key (operationKey conventions method)
  | schema type =>
    if type.kind.hasSchema && conventions.naming.schemaName type == errorSchemaName then
      [.reservedSchema type.name errorSchemaName]
    else []
  | reference id =>
    match version.type? id with
    | none => [.danglingType id]
    | some type => typeProblems type
  | document | items | walk _ _ | operation _ _ | schemas => []

/--
A call ends with at most so many calls inside each other, itself included.  A
call that goes on for ever has no such number.
-/
inductive Ends : Nat → Call → Prop where
  | intro {call : Call} {depth : Nat}
      (inside : ∀ other ∈ call.inner conventions version, Ends depth other) :
      Ends (depth + 1) call

/-! ## Problems of calls -/

theorem problems_pathOperations_perm (key : String) (path : Path) (taken : List String)
    (methods : List Method) :
    (pathOperations conventions version key path taken methods).problems.Perm
      ((late conventions taken methods).map (fun method =>
          .repeatedVerb method.name key (operationKey conventions method)) ++
        (leading conventions taken methods).flatMap fun method =>
          (OpenApi.operation conventions version path method).problems) := by
  induction methods generalizing taken with
  | nil => exact .refl _
  | cons method rest ih =>
      rw [pathOperations, late, leading]
      split
      · exact (ih taken).cons _
      · rw [List.flatMap_cons, Draft.problems_append]
        exact ((ih _).append_left _).trans (List.perm_append_comm_assoc _ _ _)

theorem problems_typeSchema (type : ApiType) :
    (typeSchema conventions version type).problems =
      if type.kind.hasSchema && conventions.naming.schemaName type == errorSchemaName then
        [.reservedSchema type.name errorSchemaName]
      else type.kind.attributes.flatMap fun attr =>
        (OpenApi.reference conventions.naming version attr.type).problems := by
  unfold typeSchema
  split
  · rfl
  · cases kind : type.kind with
    | enum values => simp [enumSchema, TypeKind.attributes]
    | struct attributes identified =>
        dsimp only
        rw [problems_structSchema, kind]
    | _ => rfl

/-- A call reports its own problems and those of the calls that it makes, and no others. -/
theorem problems_draft (ordered : version.Ordered) (call : Call) :
    (call.draft conventions version).problems.Perm
      (call.own conventions version ++
        (call.inner conventions version).flatMap fun other =>
          (other.draft conventions version).problems) := by
  cases call with
  | document =>
      simp [draft, own, inner, specification, info, servers, security]
  | items =>
      have walks (start : Option Call) (silent : ∀ call ∈ start,
          (call.draft conventions version).problems = []) :
          start.toList.flatMap (fun other => (other.draft conventions version).problems) = [] :=
        List.flatMap_eq_nil_iff.2 fun call member => silent call (Option.mem_toList.1 member)
      rw [draft, problems_pathItems, own, inner, List.nil_append, List.flatMap_append, walks,
        List.nil_append, List.flatMap_map]
      · exact .refl _
      · intro call led
        obtain ⟨root, -, led⟩ := Option.bind_eq_some_iff.1 led
        obtain ⟨resource, -, rfl⟩ := Option.map_eq_some_iff.1 led
        rfl
  | walk visited resource =>
      rw [draft, own, inner, List.nil_append, List.flatMap_eq_nil_iff.2]
      · exact .refl _
      · intro call made
        obtain ⟨locator, -, led⟩ := List.mem_filterMap.1 made
        obtain ⟨next, -, rfl⟩ := Option.map_eq_some_iff.1 led
        rfl
  | item key path =>
      rw [draft, own, inner]
      rcases pathItem_cases conventions version key path with ⟨resource, ends, item⟩ | ⟨ends, item⟩
      · rw [item, ends, Draft.problems_object]
        dsimp only
        rw [List.flatMap_map]
        exact problems_pathOperations_perm conventions version key path [] resource.methods
      · rw [item, ends]
        exact .refl _
  | operation path method =>
      rw [draft, problems_operation, own, inner, List.nil_append, List.flatMap_map]
      exact .refl _
  | schemas =>
      rw [draft, OpenApi.schemas, Draft.problems_append, problems_errorSchema, List.append_nil,
        Draft.problems_concat_map, own, inner, List.nil_append, List.flatMap_map]
      exact .refl _
  | schema type =>
      rw [draft, problems_typeSchema, own, inner]
      split
      · exact .refl _
      · rw [List.nil_append, List.flatMap_map]
        exact .refl _
  | reference id =>
      have held : (OpenApi.reference conventions.naming version id).problems = _ :=
        (congrArg Draft.problems (congrFun (reference_eq ordered) id)).trans
          (problems_describe _ _ _ id)
      rw [draft, held, own, inner]
      cases version.type? id with
      | none => exact .refl _
      | some type =>
          dsimp only [Option.bind_some]
          cases holds : type.kind.element? with
          | none => simp
          | some element => simp [typeProblems_of_holds holds, draft]

namespace Ends

variable {conventions : Conventions} {version : Version}

/-- A call that ends with some depth ends with any greater one. -/
theorem mono {call : Call} {depth more : Nat} (ends : Ends conventions version depth call)
    (deeper : depth ≤ more) : Ends conventions version more call := by
  induction ends generalizing more with
  | intro inside ih =>
      cases more with
      | zero => cases deeper
      | succ more => exact .intro fun other made => ih other made (Nat.le_of_succ_le_succ deeper)

/-! ## References -/

theorem reference_of_unused {id : TypeId} (unused : version.types.length ≤ id.index) :
    Ends conventions version 1 (.reference id) := by
  have missing : version.type? id = none := List.getElem?_eq_none unused
  refine .intro fun other made => ?_
  rw [inner, missing] at made
  cases made

/-- In an ordered version a reference follows earlier and earlier types. -/
theorem reference_of_ordered (ordered : version.Ordered) (id : TypeId) :
    Ends conventions version (id.index + 1) (.reference id) := by
  induction place : id.index using Nat.strongRecOn generalizing id with
  | ind index ih =>
      subst place
      refine .intro fun other made => ?_
      obtain ⟨element, held, rfl⟩ := List.mem_map.1 made
      obtain ⟨type, found, holds⟩ := Option.bind_eq_some_iff.1 (Option.mem_toList.1 held)
      have earlier := ordered id type element found holds
      exact (ih element.index earlier element rfl).mono earlier

/-- No reference is followed through more types than there are. -/
theorem reference (ordered : version.Ordered) (present : 0 < version.types.length)
    (id : TypeId) : Ends conventions version version.types.length (.reference id) := by
  by_cases used : id.index < version.types.length
  · exact (reference_of_ordered ordered id).mono used
  · exact (reference_of_unused (Nat.le_of_not_lt used)).mono present

/-- A reference to a type that holds itself does not end. -/
theorem not_of_holds_itself {id : TypeId} {type : ApiType} (found : version.type? id = some type)
    (holds : type.kind.element? = some id) (depth : Nat) :
    ¬ Ends conventions version depth (.reference id) := by
  induction depth with
  | zero => exact nofun
  | succ depth ih =>
      rintro ⟨inside⟩
      refine ih (inside _ ?_)
      simp [inner, found, holds]

/-! ## Walks -/

/-- Every walk inside a walk has visited one resource more. -/
theorem walk (visited : List ResourceId) (resource : Resource) :
    Ends conventions version ((version.unvisited visited).length + 1)
      (.walk visited resource) := by
  induction left : (version.unvisited visited).length using Nat.strongRecOn
    generalizing visited resource with
  | ind count ih =>
      subst left
      refine .intro fun other made => ?_
      obtain ⟨locator, offered, led⟩ := List.mem_filterMap.1 made
      obtain ⟨next, found, rfl⟩ := Option.map_eq_some_iff.1 led
      have fresh : locator.target ∉ visited := by simpa using (List.mem_filter.1 offered).2
      have fewer := Version.length_unvisited_cons_lt found fresh
      exact (ih _ fewer _ next rfl).mono fewer

/-- A walk from the root comes to no more resources than there are. -/
theorem walk_of_root {root : ResourceId} {resource : Resource}
    (found : version.resource? root = some resource) :
    Ends conventions version version.resources.length (.walk [root] resource) := by
  have all : (version.unvisited []).length = version.resources.length := by
    simp [Version.unvisited]
  have fewer := Version.length_unvisited_cons_lt found (List.not_mem_nil (a := root))
  exact (walk [root] resource).mono (by omega)

/-! ## Documents -/

section Document

variable (ends : ∀ id, Ends conventions version version.types.length (.reference id))

include ends

theorem operation (path : Path) (method : Method) :
    Ends conventions version (version.types.length + 1) (.operation path method) := by
  refine .intro fun other made => ?_
  obtain ⟨parameter, -, rfl⟩ := List.mem_map.1 made
  exact ends parameter.type

theorem item (key : String) (path : Path) :
    Ends conventions version (version.types.length + 2) (.item key path) := by
  refine .intro fun other made => ?_
  rw [inner] at made
  split at made
  · cases made
  · obtain ⟨method, -, rfl⟩ := List.mem_map.1 made
    exact operation ends path method

theorem items : Ends conventions version
    (max version.types.length version.resources.length + 3) .items := by
  refine .intro fun other made => ?_
  rcases List.mem_append.1 made with walked | written
  · obtain ⟨root, -, led⟩ := Option.bind_eq_some_iff.1 (Option.mem_toList.1 walked)
    obtain ⟨resource, found, rfl⟩ := Option.map_eq_some_iff.1 led
    exact (walk_of_root found).mono (by omega)
  · obtain ⟨⟨key, path⟩, -, rfl⟩ := List.mem_map.1 written
    exact (item ends key path).mono (by omega)

theorem schemas : Ends conventions version (version.types.length + 2) .schemas := by
  refine .intro fun other made => ?_
  obtain ⟨type, -, rfl⟩ := List.mem_map.1 made
  refine .intro fun other made => ?_
  rw [inner] at made
  split at made
  · cases made
  · obtain ⟨attr, -, rfl⟩ := List.mem_map.1 made
    exact ends attr.type

theorem document : Ends conventions version
    (max version.types.length version.resources.length + 4) .document := by
  refine .intro fun other made => ?_
  rcases List.mem_cons.1 made with rfl | made
  · exact items ends
  · obtain rfl := List.mem_singleton.1 made
    exact (schemas ends).mono (by omega)

end Document

end Ends

end Call

/--
Writing the document of a loaded version ends.  Every list and map comes after the
type that it holds, so no reference is followed through more types than there are,
whether its number is in use or not: without any bound there is one way to write
references, and the calls inside a document are bounded by its types and resources.
No call is left out: what each one reports are its own problems and those of the
calls inside it.
-/
theorem document_ends {description : Description.ModelDescription} {model : ApiModel}
    (loaded : description.load = .ok model) {version : Version}
    (member : version ∈ model.versions) (conventions : Conventions) :
    (∀ id type element, version.type? id = some type →
      (type.kind = .list element ∨ type.kind = .map element) → element.index < id.index) ∧
    (∀ id, Call.Ends conventions version version.types.length (.reference id)) ∧
    (∀ written, written = describe conventions.naming version written ↔
      written = reference conventions.naming version) ∧
    Call.Ends conventions version (max version.types.length version.resources.length + 4)
      .document ∧
    ∀ call : Call, (call.draft conventions version).problems.Perm
      (call.own conventions version ++
        (call.inner conventions version).flatMap fun other =>
          (other.draft conventions version).problems) := by
  have ordered := (Description.load_wellFormed loaded member).ordered
  have present : 0 < version.types.length := by
    obtain ⟨_, -, _, -, agrees⟩ := Description.exists_agrees_of_load loaded member
    obtain ⟨declared, derived, layout, -⟩ := agrees.types
    rw [layout, List.length_append, List.length_append, ApiType.length_builtins]
    omega
  have ends : ∀ id, Call.Ends conventions version version.types.length (.reference id) :=
    Call.Ends.reference ordered present
  refine ⟨?_, ends, ?_, Call.Ends.document ends, Call.problems_draft conventions version ordered⟩
  · intro id type element found kind
    refine ordered id type element found ?_
    rcases kind with kind | kind
    · rw [kind]
      rfl
    · rw [kind]
      rfl
  · intro written
    constructor
    · exact eq_reference ordered
    · rintro rfl
      exact reference_eq ordered

theorem document_ends_entangled : ∃ model version,
    Description.entangled.load = .ok model ∧ version ∈ model.versions ∧
    version.types.map (·.kind.element?.map (·.index)) =
      List.replicate 10 none ++ [some 9, some 10, some 7, some 4, some 8] ∧
    Call.Ends (.ofBinding .http) version 15 (.reference ⟨12⟩) ∧
    Call.Ends (.ofBinding .http) version 19 .document := by
  obtain ⟨model, loaded, shape⟩ := Description.exists_eq_ok_of_any
    (show Description.entangled.load.toOption.any (fun model =>
      model.versions.map (fun version => version.types.map (·.kind.element?.map (·.index))) ==
          [List.replicate 10 none ++ [some 9, some 10, some 7, some 4, some 8]] &&
        model.versions.map (·.resources.length) == [1]) by decide +kernel)
  simp only [Bool.and_eq_true, beq_iff_eq] at shape
  obtain ⟨held, resources⟩ := shape
  obtain ⟨version, versions⟩ := List.length_eq_one_iff.1
    (by simpa using congrArg List.length held)
  rw [versions, List.map_singleton, List.singleton_inj] at held resources
  have member : version ∈ model.versions := by simp [versions]
  have length : version.types.length = 15 := by simpa using congrArg List.length held
  obtain ⟨-, ends, -, document, -⟩ := document_ends loaded member (.ofBinding .http)
  rw [length] at ends document
  rw [resources] at document
  exact ⟨model, version, loaded, member, held, ends ⟨12⟩, document⟩

end VersionedApi.OpenApi
