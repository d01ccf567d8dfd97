import VersionedApi.OpenApi.Specification
import VersionedApi.Proofs.Model.Unfolding

/-!
# Problems of drafts

Only references to types, repeated verbs, dangling paths and reserved schemas
are reported.  The problems of each part of a document are those of the parts
it is made of, in order, and a reference adds the one that the type at its end
gives rise to.
-/

namespace VersionedApi.OpenApi

open VersionedApi.Document VersionedApi.Model

/-! ## Messages -/

/-- The letter that the message of a problem starts with. -/
def initial : Problem → Char
  | .danglingType _ | .shapelessType _ => 'D'
  | .danglingPath _ => 'C'
  | .repeatedVerb _ _ _ => 'M'
  | .reservedSchema _ _ => 'S'

theorem head?_append {first : String} {c : Char} (head : first.toList.head? = some c)
    (rest : String) : (first ++ rest).toList.head? = some c := by
  rw [String.toList_append, List.head?_append, head]
  rfl

theorem head?_message (problem : Problem) :
    problem.message.toList.head? = some (initial problem) := by
  cases problem with
  | danglingType id =>
      exact head?_append (show _ = some 'D' by decide +kernel) _
  | shapelessType type =>
      exact head?_append (head?_append (show _ = some 'D' by decide +kernel) _) _
  | danglingPath path =>
      exact head?_append (head?_append (show _ = some 'C' by decide +kernel) _) _
  | repeatedVerb method path verb =>
      have opening := head?_append (show "Method '".toList.head? = some 'M' by decide +kernel)
      exact head?_append (head?_append (head?_append (head?_append
        (head?_append (opening _) _) _) _) _) _
  | reservedSchema type schema =>
      have opening := head?_append
        (show "Schema name of type '".toList.head? = some 'S' by decide +kernel)
      exact head?_append (head?_append (head?_append (opening _) _) _) _

/-- No other problem reads like that of a dangling path. -/
theorem message_eq_danglingPath {problem : Problem} {key : String}
    (same : problem.message = (Problem.danglingPath key).message) :
    problem = .danglingPath key := by
  have letter : initial problem = 'C' := by
    have heads := head?_message problem
    rw [same, head?_message] at heads
    exact (Option.some.inj heads).symm
  cases problem with
  | danglingPath path =>
      unfold Problem.message at same
      dsimp only at same
      rw [String.append_left_inj, String.append_right_inj] at same
      rw [same]
  | danglingType id => exact absurd letter (show 'D' ≠ 'C' by decide)
  | shapelessType type => exact absurd letter (show 'D' ≠ 'C' by decide)
  | repeatedVerb method path verb => exact absurd letter (show 'M' ≠ 'C' by decide)
  | reservedSchema type schema => exact absurd letter (show 'S' ≠ 'C' by decide)

/-! ## Parts of drafts -/

namespace Draft

variable {step : Type}

@[simp] theorem problems_none : (none : Draft step).problems = [] := rfl

@[simp] theorem problems_problem (problem : Problem) :
    (Draft.problem problem : Draft step).problems = [problem] := rfl

@[simp] theorem problems_text (key value : String) : (text key value).problems = [] := rfl

@[simp] theorem problems_flag (key : String) (value : Bool) :
    (flag key value).problems = [] := rfl

@[simp] theorem problems_object (key : String) (inner : Draft FieldStep) :
    (object key inner).problems = inner.problems := rfl

@[simp] theorem problems_array (key : String) (inner : Draft ItemStep) :
    (array key inner).problems = inner.problems := rfl

@[simp] theorem problems_item (value : String) : (item value).problems = [] := rfl

@[simp] theorem problems_objectItem (inner : Draft FieldStep) :
    (objectItem inner).problems = inner.problems := rfl

@[simp] theorem problems_description (doc : String) : (description doc).problems = [] := by
  unfold description
  split <;> rfl

@[simp] theorem problems_concat_map {α : Type} (draft : α → Draft step) (members : List α) :
    (concat (members.map draft)).problems =
      members.flatMap fun member => (draft member).problems := by
  rw [problems_concat, List.flatMap_map]

end Draft

/-! ## References -/

def typeProblems (type : ApiType) : List Problem :=
  if type.kind = .interface then [.shapelessType type.name] else []

theorem problems_scalar (primitive : Primitive) : (scalar primitive).problems = [] := by
  cases primitive <;> rfl

/-- What is written for a type, given what is written for the type that it holds. -/
def describe (naming : Naming) (version : Version) (written : TypeId → Draft FieldStep)
    (id : TypeId) : Draft FieldStep :=
  match version.type? id with
  | none => Draft.problem (.danglingType id)
  | some type =>
    match type.kind with
    | .primitive primitive => scalar primitive
    | .interface => Draft.problem (.shapelessType type.name)
    | .enum _ | .struct _ _ => schemaLink (naming.schemaName type)
    | .list element => Draft.text "type" "array" ++ Draft.object "items" (written element)
    | .map element =>
      Draft.text "type" "object" ++ Draft.object "additionalProperties" (written element)

theorem referenceWithin_succ (naming : Naming) (version : Version) (depth : Nat) (id : TypeId) :
    referenceWithin naming version (depth + 1) id =
      describe naming version (referenceWithin naming version depth) id := rfl

/-- One type is looked at, and the one that it holds if it is a list or map. -/
theorem problems_describe (naming : Naming) (version : Version)
    (written : TypeId → Draft FieldStep) (id : TypeId) :
    (describe naming version written id).problems =
      match version.type? id with
      | none => [.danglingType id]
      | some type =>
        match type.kind.element? with
        | none => typeProblems type
        | some element => (written element).problems := by
  rw [describe]
  cases version.type? id with
  | none => rfl
  | some type =>
      unfold typeProblems
      cases kind : type.kind with
      | primitive primitive => simp [kind, TypeKind.element?, problems_scalar]
      | interface => simp [kind, TypeKind.element?]
      | enum values => simp [kind, TypeKind.element?, schemaLink]
      | struct attributes identified => simp [kind, TypeKind.element?, schemaLink]
      | list element => simp [kind, TypeKind.element?]
      | map element => simp [kind, TypeKind.element?]

/-- A list or map is no interface. -/
theorem typeProblems_of_holds {type : ApiType} {element : TypeId}
    (holds : type.kind.element? = some element) : typeProblems type = [] := by
  refine if_neg fun interface => ?_
  rw [interface] at holds
  cases holds

def leafProblems (version : Version) (leaf : TypeId) : List Problem :=
  match version.type? leaf with
  | none => [.danglingType leaf]
  | some type => typeProblems type

/-- A chain of lists and maps is followed to its end if the depth suffices. -/
theorem problems_referenceWithin (naming : Naming) {version : Version} {id leaf : TypeId}
    {wrappings : List Wrapping} (unfolds : version.Unfolds id wrappings leaf) {depth : Nat}
    (deep : wrappings.length < depth) :
    (referenceWithin naming version depth id).problems = leafProblems version leaf := by
  induction unfolds generalizing depth with
  | @leaf id plain =>
      cases depth with
      | zero => cases deep
      | succ depth =>
          rw [referenceWithin_succ, problems_describe, leafProblems]
          cases found : version.type? id with
          | none => rfl
          | some type => simp only [plain type found]
  | @inside id element leaf type wrapping wrappings found kind inner ih =>
      cases depth with
      | zero => cases deep
      | succ depth =>
          simp only [referenceWithin_succ, problems_describe, found, kind,
            wrapping.element?_around]
          exact ih (Nat.lt_of_succ_lt_succ deep)

/-- The depth of references suffices for every chain that has an end. -/
theorem problems_reference_of_unfolds (naming : Naming) {version : Version} {id leaf : TypeId}
    {wrappings : List Wrapping} (unfolds : version.Unfolds id wrappings leaf) :
    (reference naming version id).problems = leafProblems version leaf :=
  problems_referenceWithin naming unfolds (Nat.lt_succ_of_le unfolds.length_le)

theorem problems_reference (naming : Naming) {version : Version} {id : TypeId} {last : ApiType}
    (ends : version.EndsAt id last) :
    (reference naming version id).problems = typeProblems last := by
  obtain ⟨wrappings, leaf, unfolds, found⟩ := ends.exists_unfolds
  rw [problems_reference_of_unfolds naming unfolds, leafProblems, found]

/-- A reference gives rise to one problem if it leads to the interface, else to none. -/
theorem length_problems_reference (naming : Naming) {version : Version}
    (ordered : version.Ordered) {id : TypeId} (used : id.index < version.types.length) :
    (reference naming version id).problems.length = if version.isShapeless id then 1 else 0 := by
  obtain ⟨last, ends⟩ := Version.exists_endsAt ordered used
  rw [problems_reference naming ends, Version.isShapeless_eq ordered ends,
    typeProblems]
  by_cases interface : last.kind = .interface
  · simp [interface]
  · simp [interface]

def concernsType : Problem → Bool
  | .danglingType _ | .shapelessType _ => true
  | _ => false

/-- References report nothing but types, whatever the version is like. -/
theorem concernsType_of_mem_reference {naming : Naming} {version : Version} {id : TypeId}
    {problem : Problem} (member : problem ∈ (reference naming version id).problems) :
    concernsType problem := by
  unfold reference at member
  generalize version.types.length + 1 = depth at member
  induction depth generalizing id with
  | zero => cases member
  | succ depth ih =>
      rw [referenceWithin_succ, problems_describe] at member
      split at member
      · obtain rfl := List.mem_singleton.1 member
        rfl
      · split at member
        · unfold typeProblems at member
          split at member
          · obtain rfl := List.mem_singleton.1 member
            rfl
          · cases member
        · exact ih member

/-! ## Operations -/

/-- The parameters whose types an operation describes; the body has room for one. -/
def described (conventions : Conventions) (version : Version) (method : Method) :
    List Parameter :=
  conventions.binding.query version method ++
    (conventions.binding.body version method).head?.toList ++
    conventions.binding.response method

def parameterProblems (conventions : Conventions) (version : Version)
    (sent : List Parameter) : List Problem :=
  sent.flatMap fun parameter => (reference conventions.naming version parameter.type).problems

variable (conventions : Conventions) (version : Version)

theorem problems_parameters (path : Path) (method : Method) :
    (parameters conventions version path method).problems =
      parameterProblems conventions version (conventions.binding.query version method) := by
  simp [parameters, pathParameter, queryParameter, parameterProblems]

theorem problems_requestBody (method : Method) :
    (requestBody conventions version method).problems =
      parameterProblems conventions version
        (conventions.binding.body version method).head?.toList := by
  unfold requestBody
  split
  · next empty => simp [empty, parameterProblems]
  · next sent => simp [sent, content, parameterProblems]

theorem problems_responseBody (sent : List Parameter) :
    (responseBody conventions version sent).problems =
      parameterProblems conventions version sent := by
  unfold responseBody
  split
  · rfl
  · simp [content, parameterProblems]
  · simp [content, parameterProblems, responseProperty]

theorem problems_responses (method : Method) :
    (responses conventions version method).problems =
      parameterProblems conventions version (conventions.binding.response method) := by
  simp [responses, problems_responseBody, content, schemaLink]

/-- An operation reports what the types that it describes give rise to. -/
theorem problems_operation (path : Path) (method : Method) :
    (operation conventions version path method).problems =
      parameterProblems conventions version (described conventions version method) := by
  simp [operation, problems_parameters, problems_requestBody, problems_responses,
    described, parameterProblems]

/-! ## Operations of a resource -/

def repeatsVerb (earlier : List Method) (method : Method) : Bool :=
  earlier.any fun other => operationKey conventions other = operationKey conventions method

def methodProblems (key : String) (earlier : List Method) (method : Method) : List Problem :=
  if repeatsVerb conventions earlier method then
    [.repeatedVerb method.name key (operationKey conventions method)]
  else parameterProblems conventions version (described conventions version method)

/-- The verbs that are taken are those of the methods in front. -/
def Taken (front : List Method) (taken : List String) : Prop :=
  ∀ verb, verb ∈ taken ↔ ∃ method ∈ front, operationKey conventions method = verb

namespace Taken

variable {conventions} {front : List Method} {taken : List String}

theorem nil : Taken conventions [] [] := by
  simp [Taken]

theorem mem_iff (known : Taken conventions front taken) (method : Method) :
    operationKey conventions method ∈ taken ↔ repeatsVerb conventions front method := by
  simp [known _, repeatsVerb]

/-- A method that comes first takes its verb. -/
theorem cons (known : Taken conventions front taken) (method : Method) :
    Taken conventions (front ++ [method]) (operationKey conventions method :: taken) := by
  intro verb
  simp only [List.mem_cons, known verb, List.mem_append, List.not_mem_nil, or_false, or_and_right,
    exists_or, exists_eq_left]
  rw [or_comm, eq_comm]

/-- A method that comes too late takes no verb. -/
theorem late (known : Taken conventions front taken) {method : Method}
    (repeated : operationKey conventions method ∈ taken) :
    Taken conventions (front ++ [method]) taken := by
  intro verb
  rw [← known.cons method verb, List.mem_cons]
  exact ⟨.inr, (·.elim (fun same => same ▸ repeated) id)⟩

end Taken

theorem problems_pathOperations_from (key : String) (path : Path) {front rest : List Method}
    {taken : List String} (known : Taken conventions front taken) :
    (pathOperations conventions version key path taken rest).problems =
      (rest.zipIdx front.length).flatMap fun entry =>
        methodProblems conventions version key ((front ++ rest).take entry.2) entry.1 := by
  induction rest generalizing front taken with
  | nil => rfl
  | cons method rest ih =>
      have first : (front ++ method :: rest).take front.length = front := by simp
      have shifted : front ++ method :: rest = (front ++ [method]) ++ rest := by simp
      have length : front.length + 1 = (front ++ [method]).length := by simp
      rw [List.zipIdx_cons, List.flatMap_cons, first, shifted, length, pathOperations,
        methodProblems]
      by_cases repeated : operationKey conventions method ∈ taken
      · simp only [repeated, if_true, Draft.problems_append, Draft.problems_problem,
          (known.mem_iff method).1 repeated]
        rw [ih (known.late repeated)]
      · have early : repeatsVerb conventions front method = false := by
          simpa using fun again => repeated ((known.mem_iff method).2 again)
        simp only [repeated, if_false, Draft.problems_append, problems_operation, early,
          Bool.false_eq_true]
        rw [ih (known.cons method)]

/-- A resource reports for each method what it gives rise to after the methods before it. -/
theorem problems_pathOperations (key : String) (path : Path) (methods : List Method) :
    (pathOperations conventions version key path [] methods).problems =
      methods.zipIdx.flatMap fun entry =>
        methodProblems conventions version key (methods.take entry.2) entry.1 :=
  problems_pathOperations_from conventions version key path .nil

end VersionedApi.OpenApi
