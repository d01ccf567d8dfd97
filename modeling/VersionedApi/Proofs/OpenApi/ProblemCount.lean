import Mathlib.Algebra.GroupWithZero.Nat
import Mathlib.Data.List.Dedup
import VersionedApi.Proofs.Description.WellFormed
import VersionedApi.Proofs.OpenApi.DistinctPaths

/-!
# Counting problems

How many problems the document of a well-formed version has can be read off its
types, its paths and its methods, without writing the document.
-/

namespace VersionedApi.OpenApi

open VersionedApi.Document VersionedApi.Model

/-! ## Counts -/

section Counts

variable (version : Version)

/-- The schema of the type would have the name of the schema of errors. -/
def isReserved (type : ApiType) : Bool :=
  type.kind.hasSchema && type.name.pascal == errorSchemaName

/-- The types without a schema, and the attributes of the others that no schema describes. -/
def typeProblemCount : Nat :=
  version.types.countP isReserved +
    ((version.types.filter fun type => !isReserved type).map fun type =>
      type.kind.attributes.countP fun attr => version.isShapeless attr.type).sum

/-- An earlier method has the verb. -/
def isLate (earlier : List Method) (method : Method) : Bool :=
  earlier.any fun other => Binding.http.verb other == Binding.http.verb method

/-- The parameters that a method sends and returns; its body has room for one. -/
def sentParameters (method : Method) : List Parameter :=
  Binding.http.query version method ++ (Binding.http.body version method).head?.toList ++
    Binding.http.response method

/-- The methods that come too late, and the parameters of the others that no schema describes. -/
def resourceProblemCount (resource : Resource) : Nat :=
  let late (entry : Method × Nat) := isLate (resource.methods.take entry.2) entry.1
  resource.methods.zipIdx.countP late +
    ((resource.methods.zipIdx.filter fun entry => !late entry).map fun entry =>
      (sentParameters version entry.1).countP fun parameter =>
        version.isShapeless parameter.type).sum

/-- The problems of the resource that the first chain of an absolute path leads to. -/
def pathProblemCount (key : String) : Nat :=
  match (version.firstChain? key).bind version.endOf? with
  | none => 0
  | some resource => resourceProblemCount version resource

/-- The problems of a version, each distinct absolute path counted once. -/
def problemCount : Nat :=
  typeProblemCount version +
    ((version.paths.map version.absolutePath).dedup.map (pathProblemCount version)).sum

end Counts

/-! ## Lists of problems -/

theorem length_flatMap_split {α β : Type} {list : α → List β} {single : α → Bool}
    {count : α → Nat} {members : List α}
    (each : ∀ member ∈ members,
      (list member).length = if single member then 1 else count member) :
    (members.flatMap list).length =
      members.countP single +
        ((members.filter fun member => !single member).map count).sum := by
  induction members with
  | nil => rfl
  | cons member rest ih =>
      rw [List.flatMap_cons, List.length_append, each member List.mem_cons_self,
        ih fun other present => each other (List.mem_cons_of_mem _ present),
        List.countP_cons, List.filter_cons]
      by_cases alone : single member
      · simp only [alone, if_true, Bool.not_true, Bool.false_eq_true, if_false]
        omega
      · simp only [alone, if_false, Bool.not_false, if_true, List.map_cons, List.sum_cons,
          Bool.false_eq_true]
        omega

theorem length_flatMap_eq_countP {α β : Type} {list : α → List β} {single : α → Bool}
    {members : List α}
    (each : ∀ member ∈ members, (list member).length = if single member then 1 else 0) :
    (members.flatMap list).length = members.countP single := by
  rw [length_flatMap_split each, List.map_const', List.sum_replicate_nat, Nat.mul_zero,
    Nat.add_zero]

/-! ## Schemas -/

variable {version : Version}

theorem problems_property (key doc type : String) : (property key doc type).problems = [] := by
  simp [property]

theorem problems_errorSchema : errorSchema.problems = [] := by
  simp [errorSchema, problems_property]

theorem problems_structSchema (conventions : Conventions) (version : Version) (type : ApiType) :
    (structSchema conventions version type).problems =
      type.kind.attributes.flatMap fun attr =>
        (reference conventions.naming version attr.type).problems := by
  unfold structSchema
  split
  · simp [identityProperties, problems_property, attributeProperty]
  · simp [attributeProperty]

theorem length_problems_typeSchema (wellFormed : version.WellFormed) {type : ApiType}
    (declared : type ∈ version.types) :
    (typeSchema (.ofBinding .http) version type).problems.length =
      if isReserved type then 1
      else type.kind.attributes.countP fun attr => version.isShapeless attr.type := by
  unfold typeSchema
  change (if isReserved type then _ else _ : Draft FieldStep).problems.length = _
  split
  · rfl
  · have described : (type.kind.attributes.flatMap fun attr =>
        (reference Naming.standard version attr.type).problems).length =
          type.kind.attributes.countP fun attr => version.isShapeless attr.type :=
      length_flatMap_eq_countP fun attr member =>
        length_problems_reference _ wellFormed.ordered
          (wellFormed.attributes type declared attr member).2
    cases kind : type.kind with
    | struct attributes identified =>
        have written := problems_structSchema (.ofBinding .http) version type
        rw [kind] at described written
        rw [← described]
        exact congrArg List.length written
    | enum values => simp [enumSchema, kind, TypeKind.attributes]
    | _ => rfl

theorem length_problems_schemas (wellFormed : version.WellFormed) :
    (schemas (.ofBinding .http) version).problems.length = typeProblemCount version := by
  rw [schemas, Draft.problems_append, problems_errorSchema, List.append_nil,
    Draft.problems_concat_map]
  exact length_flatMap_split fun type declared => length_problems_typeSchema wellFormed declared

/-! ## Paths -/

/-- Two methods have one verb if they are listed under one key. -/
theorem operationKey_eq_iff {first second : Method} :
    operationKey (.ofBinding .http) first = operationKey (.ofBinding .http) second ↔
      Binding.http.verb first = Binding.http.verb second := by
  have keys : ∀ left right : MethodKind,
      Text.lowercaseText (Binding.httpVerb left) = Text.lowercaseText (Binding.httpVerb right) ↔
        Binding.httpVerb left = Binding.httpVerb right := by
    intro left right
    cases left <;> cases right <;> decide +kernel
  exact keys first.kind second.kind

theorem repeatsVerb_eq_isLate (earlier : List Method) (method : Method) :
    repeatsVerb (.ofBinding .http) earlier method = isLate earlier method := by
  simp only [repeatsVerb, isLate, operationKey_eq_iff]
  rfl

theorem mem_parameters_of_sent {method : Method} {parameter : Parameter}
    (sent : parameter ∈ sentParameters version method) : parameter ∈ method.parameters := by
  rcases List.mem_append.1 sent with requested | returned
  · rcases List.mem_append.1 requested with asked | carried
    · exact (List.mem_filter.1 asked).1
    · have body := List.mem_of_head? (Option.mem_toList.1 carried)
      exact (List.mem_filter.1 body).1
  · exact (List.mem_filter.1 returned).1

theorem length_methodProblems (wellFormed : version.WellFormed) {resource : Resource}
    (declared : resource ∈ version.resources) {method : Method}
    (offered : method ∈ resource.methods) (key : String) (earlier : List Method) :
    (methodProblems (.ofBinding .http) version key earlier method).length =
      if isLate earlier method then 1
      else (sentParameters version method).countP fun parameter =>
        version.isShapeless parameter.type := by
  rw [methodProblems, repeatsVerb_eq_isLate]
  split
  · rfl
  · refine length_flatMap_eq_countP fun parameter sent => ?_
    have member := mem_parameters_of_sent sent
    exact length_problems_reference _ wellFormed.ordered
      (wellFormed.parameters _ declared _ offered _ member).2

theorem length_problems_pathOperations (wellFormed : version.WellFormed) {resource : Resource}
    (declared : resource ∈ version.resources) (key : String) (path : Path) :
    (pathOperations (.ofBinding .http) version key path [] resource.methods).problems.length =
      resourceProblemCount version resource := by
  rw [problems_pathOperations]
  refine length_flatMap_split fun entry member => ?_
  have offered : entry.1 ∈ resource.methods := List.fst_mem_of_mem_zipIdx member
  exact length_methodProblems wellFormed declared offered key _

theorem length_problems_pathItem (wellFormed : version.WellFormed) {key : String} {path : Path}
    (first : version.firstChain? key = some path) :
    (pathItem (.ofBinding .http) version key path).problems.length =
      pathProblemCount version key := by
  obtain ⟨resource, declared, ends⟩ :=
    Version.Closed.exists_endOf? wellFormed.locators (Version.mem_paths_of_firstChain? first)
  have counted : pathProblemCount version key = resourceProblemCount version resource := by
    simp [pathProblemCount, first, ends]
  rcases pathItem_cases (.ofBinding .http) version key path with ⟨other, same, item⟩ | ⟨none, -⟩
  · obtain rfl := Option.some.inj (ends.symm.trans same)
    rw [item, counted, Draft.problems_object]
    exact length_problems_pathOperations wellFormed declared key path
  · rw [ends] at none
    cases none

/-- The distinct paths are the absolute paths, each once. -/
theorem keys_distinctPaths_perm (version : Version) :
    ((distinctPaths version).map (·.1)).Perm (version.paths.map version.absolutePath).dedup := by
  rw [List.perm_ext_iff_of_nodup (nodup_keys_distinctPaths version) (List.nodup_dedup _)]
  intro key
  rw [List.mem_dedup, List.mem_map (f := version.absolutePath), mem_keys_distinctPaths_iff]

theorem length_problems_pathItems (wellFormed : version.WellFormed) :
    (pathItems (.ofBinding .http) version).problems.length =
      ((version.paths.map version.absolutePath).dedup.map (pathProblemCount version)).sum := by
  have each : ∀ pair ∈ distinctPaths version,
      (pathItem (.ofBinding .http) version pair.1 pair.2).problems.length =
        pathProblemCount version pair.1 := fun pair member =>
    length_problems_pathItem wellFormed (mem_distinctPaths_iff.1 member)
  rw [problems_pathItems, List.length_flatMap, List.map_congr_left each,
    ← ((keys_distinctPaths_perm version).map (pathProblemCount version)).sum_nat, List.map_map]
  rfl

/-! ## The whole document -/

/-- The document of a well-formed version has as many problems as the version counts. -/
theorem length_problems_specification (wellFormed : version.WellFormed) :
    (specification (.ofBinding .http) version).problems.length = problemCount version := by
  have parts : (specification (.ofBinding .http) version).problems =
      (pathItems (.ofBinding .http) version).problems ++
        (schemas (.ofBinding .http) version).problems := by
    simp [specification, info, servers, security]
  rw [parts, List.length_append, length_problems_pathItems wellFormed,
    length_problems_schemas wellFormed, problemCount, Nat.add_comm]

end VersionedApi.OpenApi
