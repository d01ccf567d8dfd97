import VersionedApi.Proofs.OpenApi.Operations

/-!
# Methods that share a verb

An item has room for one operation per verb.  The first method with a verb
writes it by itself, and each further one leaves a message and nothing else, so
no operation is ever opened again.
-/

namespace VersionedApi.OpenApi

open VersionedApi.Document VersionedApi.Model

variable (conventions : Conventions)

/-- The methods of which an earlier one has the verb. -/
def lateMethods (methods : List Method) : List Method :=
  (methods.zipIdx.filter fun entry =>
    repeatsVerb conventions (methods.take entry.2) entry.1).map (·.1)

def clash (key : String) (method : Method) : Problem :=
  .repeatedVerb method.name key (operationKey conventions method)

def isClash : Problem → Bool
  | .repeatedVerb _ _ _ => true
  | _ => false

/-! ## First methods -/

/-- The methods that come first are found by their verbs. -/
theorem mem_leading_iff {taken : List String} {methods : List Method} {method : Method} :
    method ∈ leading conventions taken methods ↔
      operationKey conventions method ∉ taken ∧
        methods.find? (operationKey conventions · = operationKey conventions method) =
          some method := by
  induction methods generalizing taken with
  | nil => simp [leading]
  | cons first rest ih =>
      rw [leading, List.find?_cons]
      by_cases same : operationKey conventions first = operationKey conventions method
      · by_cases known : operationKey conventions first ∈ taken
        · simp [known, same ▸ known, ih]
        · have free : operationKey conventions method ∉ taken := same ▸ known
          simp [free, ih, same, eq_comm]
      · by_cases known : operationKey conventions first ∈ taken
        · simp [known, same, ih]
        · have other : method ≠ first := fun equal => same (equal ▸ rfl)
          simp [known, same, ih, other, Ne.symm same]

/-- The verbs of the first methods are all verbs, in the order of their first occurrence. -/
theorem map_operationKey_leading (taken : List String) (methods : List Method) :
    (leading conventions taken methods).map (operationKey conventions) =
      ((methods.map (operationKey conventions)).filter (· ∉ taken)).eraseDups := by
  induction methods generalizing taken with
  | nil => rfl
  | cons first rest ih =>
      rw [leading, List.map_cons, List.filter_cons]
      by_cases known : operationKey conventions first ∈ taken
      · simp [known, ih]
      · simp only [known, if_false, not_false_eq_true, decide_true, if_true, List.map_cons, ih,
          List.eraseDups_cons, List.filter_filter]
        congr 2
        refine List.filter_congr fun verb _ => ?_
        simp [not_or, beq_eq_decide]

theorem length_leading_from {front rest : List Method} {taken : List String}
    (known : Taken conventions front taken) :
    (leading conventions taken rest).length + ((rest.zipIdx front.length).countP fun entry =>
      repeatsVerb conventions ((front ++ rest).take entry.2) entry.1) = rest.length := by
  induction rest generalizing front taken with
  | nil => rfl
  | cons method rest ih =>
      have first : (front ++ method :: rest).take front.length = front := by simp
      have shifted : front ++ method :: rest = (front ++ [method]) ++ rest := by simp
      have length : front.length + 1 = (front ++ [method]).length := by simp
      rw [List.zipIdx_cons, List.countP_cons, first, shifted, length, leading, List.length_cons]
      by_cases repeated : operationKey conventions method ∈ taken
      · have later := ih (known.late repeated)
        rw [if_pos repeated, if_pos ((known.mem_iff method).1 repeated)]
        omega
      · have later := ih (known.cons method)
        have early : ¬ repeatsVerb conventions front method := mt (known.mem_iff method).2 repeated
        rw [if_neg repeated, if_neg early, List.length_cons]
        omega

/-- Every method either comes first with its verb or comes too late. -/
theorem length_leading_add (methods : List Method) :
    (leading conventions [] methods).length + (lateMethods conventions methods).length =
      methods.length := by
  rw [lateMethods, List.length_map, ← List.countP_eq_length_filter]
  exact length_leading_from conventions .nil

/-! ## Messages -/

theorem filter_isClash_methodProblems (version : Version) (key : String) (earlier : List Method)
    (method : Method) :
    (methodProblems conventions version key earlier method).filter isClash =
      if repeatsVerb conventions earlier method then [clash conventions key method] else [] := by
  unfold methodProblems
  split
  · rfl
  · refine List.filter_eq_nil_iff.2 fun problem member => ?_
    obtain ⟨parameter, -, within⟩ := List.mem_flatMap.1 member
    have type := concernsType_of_mem_reference within
    cases problem with
    | repeatedVerb => cases type
    | _ => exact Bool.false_ne_true

/-- The methods that come too late leave one message each, in their order. -/
theorem filter_isClash_pathOperations (version : Version) (key : String) (path : Path)
    (methods : List Method) :
    (pathOperations conventions version key path [] methods).problems.filter isClash =
      (lateMethods conventions methods).map (clash conventions key) := by
  rw [problems_pathOperations, List.filter_flatMap, lateMethods, List.map_map]
  simp only [filter_isClash_methodProblems]
  induction methods.zipIdx with
  | nil => rfl
  | cons entry rest ih =>
      rw [List.flatMap_cons, ih, List.filter_cons]
      split <;> rfl

/-! ## The item of a path -/

/-- What the first method with a verb writes by itself. -/
theorem get?_pathOperations (version : Version) (key : String) (path : Path)
    {methods : List Method} {verb : String} {method : Method}
    (first : methods.find? (operationKey conventions · = verb) = some method) :
    ∃ value, build (operation conventions version path method).steps = [(verb, value)] ∧
      Fields.get? (build (pathOperations conventions version key path [] methods).steps) verb =
        some value := by
  obtain rfl : operationKey conventions method = verb := by simpa using List.find?_some first
  refine ⟨.object (build (operationBody conventions version path method).steps), rfl, ?_⟩
  have leads : method ∈ leading conventions [] methods :=
    (mem_leading_iff conventions).2 ⟨List.not_mem_nil, first⟩
  refine Fields.get?_of_mem ?_ (mem_pathOperations version key path leads)
  rw [build_pathOperations, Fields.keys, List.map_map]
  exact nodup_leading conventions [] methods

/--
The item of a chain that leads to a resource has the verbs of its methods as
keys, in the order of their first occurrence, and under each verb what the first
method with it writes by itself.  Every other method leaves one message that
names it, where it stands among the messages of the operations, and no field.
-/
theorem pathItem_of_firstMethods {version : Version} {path : Path} {resource : Resource}
    (ends : version.endOf? path = some resource) (conventions : Conventions) (key : String) :
    let problems := (pathItem conventions version key path).problems
    ∃ operations,
      build (pathItem conventions version key path).steps = [(key, .object operations)] ∧
      Fields.keys operations =
        (resource.methods.map (operationKey conventions)).eraseDups ∧
      (∀ verb method,
        resource.methods.find? (operationKey conventions · = verb) = some method →
        ∃ value, build (operation conventions version path method).steps = [(verb, value)] ∧
          Fields.get? operations verb = some value) ∧
      (problems = resource.methods.zipIdx.flatMap fun entry =>
        if repeatsVerb conventions (resource.methods.take entry.2) entry.1 then
          [clash conventions key entry.1]
        else (operation conventions version path entry.1).problems) ∧
      problems.filter isClash =
        (lateMethods conventions resource.methods).map (clash conventions key) ∧
      ((problems.filter isClash).map (·.message) =
        (lateMethods conventions resource.methods).map fun method =>
          "Method '" ++ method.name.snake ++ "' of path '" ++ key ++ "' uses verb '" ++
            operationKey conventions method ++
            "' already taken by another method, it will be ignored") ∧
      resource.methods.length = operations.length + (problems.filter isClash).length := by
  intro problems
  have item : pathItem conventions version key path = Draft.object key
      (pathOperations conventions version key path [] resource.methods) := by
    rcases pathItem_cases conventions version key path with ⟨other, same, item⟩ | ⟨dangling, -⟩
    · obtain rfl := Option.some.inj (ends.symm.trans same)
      exact item
    · rw [ends] at dangling
      cases dangling
  have reported : problems =
      (pathOperations conventions version key path [] resource.methods).problems := by
    simp only [problems, item, Draft.problems_object]
  have clashes := filter_isClash_pathOperations conventions version key path resource.methods
  refine ⟨build (pathOperations conventions version key path [] resource.methods).steps,
    by rw [item]; rfl, ?_, ?_, ?_, ?_, ?_, ?_⟩
  · rw [build_pathOperations, Fields.keys, List.map_map]
    have first := map_operationKey_leading conventions [] resource.methods
    simpa [Function.comp_def] using first
  · intro verb method first
    exact get?_pathOperations conventions version key path first
  · rw [reported, problems_pathOperations]
    simp only [methodProblems, problems_operation, clash]
  · rw [reported, clashes]
  · rw [reported, clashes, List.map_map]
    rfl
  · rw [reported, clashes, List.length_map, build_pathOperations, List.length_map,
      length_leading_add]

/-- A resource with two methods for each of two verbs, one of them with a shapeless answer. -/
def crowdedNode : Resource where
  name := ⟨"node"⟩
  doc := ""
  methods := [
    ⟨⟨"list"⟩, "All.", [⟨⟨"items"⟩, "", .outbound, ⟨6⟩⟩]⟩, ⟨⟨"restart"⟩, "", []⟩,
    ⟨⟨"get"⟩, "One.", []⟩, ⟨⟨"add"⟩, "", [⟨⟨"body"⟩, "", .inbound, ⟨6⟩⟩]⟩]
  locators := []

/-- A version in which a chain leads to it. -/
def crowdedVerbs : Version where
  service := ⟨"clusters_mgmt"⟩
  name := ⟨"v1"⟩
  doc := ""
  types := ApiType.builtins
  resources := [
    { name := ⟨"root"⟩, doc := "", methods := [], locators := [⟨⟨"node"⟩, "", true, ⟨1⟩⟩] },
    crowdedNode]
  root := some ⟨0⟩

theorem pathItem_of_firstMethods_crowded :
    crowdedVerbs.endOf? [⟨⟨"node"⟩, "", true, ⟨1⟩⟩] = some crowdedNode ∧
    ∃ operations, build (pathItem (.ofBinding .dashed) crowdedVerbs "/node"
        [⟨⟨"node"⟩, "", true, ⟨1⟩⟩]).steps = [("/node", .object operations)] ∧
      Fields.keys operations = ["get", "post"] ∧
      (pathItem (.ofBinding .dashed) crowdedVerbs "/node"
          [⟨⟨"node"⟩, "", true, ⟨1⟩⟩]).problems.filter isClash =
        [.repeatedVerb ⟨"get"⟩ "/node" "get", .repeatedVerb ⟨"add"⟩ "/node" "post"] ∧
      ((pathItem (.ofBinding .dashed) crowdedVerbs "/node"
          [⟨⟨"node"⟩, "", true, ⟨1⟩⟩]).problems.filter isClash).map (·.message) =
        ["Method 'get' of path '/node' uses verb 'get' already taken by another method, " ++
            "it will be ignored",
          "Method 'add' of path '/node' uses verb 'post' already taken by another method, " ++
            "it will be ignored"] := by
  have ends : crowdedVerbs.endOf? [⟨⟨"node"⟩, "", true, ⟨1⟩⟩] = some crowdedNode := rfl
  obtain ⟨operations, item, keys, -, -, clashes, texts, -⟩ :=
    pathItem_of_firstMethods ends (.ofBinding .dashed) "/node"
  refine ⟨ends, operations, item, keys.trans ?_, clashes.trans ?_, texts.trans ?_⟩
  · decide +kernel
  · decide +kernel
  · decide +kernel

end VersionedApi.OpenApi
