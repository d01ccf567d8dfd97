import VersionedApi.Proofs.OpenApi.DistinctPaths

/-!
# Operations in items

The items of a version, the operations in an item and the parameters of an
operation stand side by side, each as it is written by itself: no two chains
write to one item, and no two methods to one operation.
-/

namespace VersionedApi.OpenApi

open VersionedApi.Document VersionedApi.Model

variable (conventions : Conventions) (version : Version)

/-! ## Operations of an item -/

def operationBody (path : Path) (method : Method) : Draft FieldStep :=
  Draft.description method.doc ++ parameters conventions version path method ++
    requestBody conventions version method ++ responses conventions version method

/-- The methods that come first with their verb, no verb in `taken` being free. -/
def leading : List String → List Method → List Method
  | _, [] => []
  | taken, method :: rest =>
    if operationKey conventions method ∈ taken then leading taken rest
    else method :: leading (operationKey conventions method :: taken) rest

theorem not_mem_of_mem_leading {taken : List String} {methods : List Method} {method : Method}
    (member : method ∈ leading conventions taken methods) :
    operationKey conventions method ∉ taken := by
  induction methods generalizing taken with
  | nil => cases member
  | cons first rest ih =>
      rw [leading] at member
      split at member
      · exact ih member
      · next free =>
          rcases List.mem_cons.1 member with rfl | later
          · exact free
          · exact fun known => ih later (List.mem_cons_of_mem _ known)

/-- No two of the methods that come first share a verb. -/
theorem nodup_leading (taken : List String) (methods : List Method) :
    ((leading conventions taken methods).map (operationKey conventions)).Nodup := by
  induction methods generalizing taken with
  | nil => exact List.nodup_nil
  | cons first rest ih =>
      rw [leading]
      split
      · exact ih taken
      · refine List.nodup_cons.2 ⟨fun again => ?_, ih _⟩
        obtain ⟨method, member, same⟩ := List.mem_map.1 again
        exact not_mem_of_mem_leading conventions member (same ▸ List.mem_cons_self)

theorem steps_pathOperations (key : String) (path : Path) (taken : List String)
    (methods : List Method) :
    (pathOperations conventions version key path taken methods).steps =
      (leading conventions taken methods).map fun method =>
        .object (operationKey conventions method)
          (operationBody conventions version path method).steps := by
  induction methods generalizing taken with
  | nil => rfl
  | cons method rest ih =>
      rw [pathOperations, leading]
      split
      · exact ih taken
      · rw [Draft.steps_append, ih, List.map_cons]
        rfl

/-- An item holds the operations of the methods that come first, each as written by itself. -/
theorem build_pathOperations (key : String) (path : Path) (methods : List Method) :
    build (pathOperations conventions version key path [] methods).steps =
      (leading conventions [] methods).map fun method =>
        (operationKey conventions method,
          .object (build (operationBody conventions version path method).steps)) := by
  rw [steps_pathOperations]
  exact build_objects _ _ (nodup_leading conventions [] methods)

variable {conventions}

theorem mem_pathOperations (key : String) (path : Path) {methods : List Method} {method : Method}
    (first : method ∈ leading conventions [] methods) :
    (operationKey conventions method,
      .object (build (operationBody conventions version path method).steps)) ∈
      build (pathOperations conventions version key path [] methods).steps := by
  rw [build_pathOperations]
  exact List.mem_map.2 ⟨method, first, rfl⟩

variable (conventions)

/-! ## Items of a version -/

/-- The chains that write an item, each with the resource at its end. -/
def writingChains : List ((String × Path) × Resource) :=
  (distinctPaths version).filterMap fun pair => (version.endOf? pair.2).map fun resource =>
    (pair, resource)

theorem mem_writingChains_iff {key : String} {path : Path} {resource : Resource} :
    ((key, path), resource) ∈ writingChains version ↔
      version.firstChain? key = some path ∧ version.endOf? path = some resource := by
  simp [writingChains, mem_distinctPaths_iff]

theorem steps_pathItems_objects :
    (pathItems conventions version).steps =
      (writingChains version).map fun chain => .object chain.1.1
        (pathOperations conventions version chain.1.1 chain.1.2 [] chain.2.methods).steps := by
  rw [steps_pathItems, writingChains]
  induction distinctPaths version with
  | nil => rfl
  | cons pair rest ih =>
      rw [List.flatMap_cons, ih, List.filterMap_cons]
      rcases pathItem_cases conventions version pair.1 pair.2 with ⟨resource, ends, item⟩ |
        ⟨ends, item⟩
      · rw [item, ends]
        rfl
      · rw [item, ends]
        rfl

theorem map_writingChains : (writingChains version).map (·.1) =
    (distinctPaths version).filter fun pair => (version.endOf? pair.2).isSome := by
  unfold writingChains
  induction distinctPaths version with
  | nil => rfl
  | cons pair rest ih =>
      rw [List.filterMap_cons, List.filter_cons]
      cases version.endOf? pair.2 with
      | none => exact ih
      | some resource => exact congrArg (pair :: ·) ih

theorem nodup_keys_writingChains : ((writingChains version).map (·.1.1)).Nodup := by
  have keys : (((writingChains version).map (·.1)).map (·.1)).Nodup := by
    rw [map_writingChains]
    exact (nodup_keys_distinctPaths version).sublist (List.filter_sublist.map _)
  rwa [List.map_map] at keys

/-- The items stand side by side under the distinct paths that lead to a resource. -/
theorem build_pathItems :
    build (pathItems conventions version).steps =
      (writingChains version).map fun chain => (chain.1.1, .object (build
        (pathOperations conventions version chain.1.1 chain.1.2 [] chain.2.methods).steps)) := by
  rw [steps_pathItems_objects]
  exact build_objects _ _ (nodup_keys_writingChains version)

variable {version}

theorem mem_pathItems {key : String} {path : Path} {resource : Resource}
    (first : version.firstChain? key = some path) (ends : version.endOf? path = some resource) :
    (key, .object
      (build (pathOperations conventions version key path [] resource.methods).steps)) ∈
      build (pathItems conventions version).steps := by
  rw [build_pathItems]
  exact List.mem_map.2 ⟨_, (mem_writingChains_iff version).2 ⟨first, ends⟩, rfl⟩

variable (version)

/-! ## Parameters of an operation -/

def pathEntry (locator : Locator) : Draft FieldStep :=
  Draft.text "name" (pathParameterName conventions locator) ++ Draft.text "in" "path" ++
    Draft.object "schema" (Draft.text "type" "string")

def queryEntry (parameter : Parameter) : Draft FieldStep :=
  Draft.text "name" (conventions.binding.parameterName parameter) ++
    Draft.description parameter.doc ++ Draft.text "in" "query" ++
    Draft.object "schema" (reference conventions.naming version parameter.type)

def pathEntries (path : Path) : Items :=
  (path.filter (·.isVariable)).map fun locator =>
    .object (build (pathEntry conventions locator).steps)

def queryEntries (method : Method) : Items :=
  (conventions.binding.query version method).map fun parameter =>
    .object (build (queryEntry conventions version parameter).steps)

theorem Draft.steps_concat_objectItem {α : Type} (inner : α → Draft FieldStep) (members : List α) :
    (Draft.concat (members.map fun member => Draft.objectItem (inner member))).steps =
      members.map fun member => .object (inner member).steps := by
  rw [Draft.steps_concat, List.flatMap_map, List.map_eq_flatMap]
  rfl

/-- The parameters are objects: those for the variables of the path, then those for the query. -/
theorem steps_parameters (path : Path) (method : Method) :
    (parameters conventions version path method).steps =
      [.array "parameters"
        ((path.filter (·.isVariable)).map (fun locator =>
            .object (pathEntry conventions locator).steps) ++
          (conventions.binding.query version method).map fun parameter =>
            .object (queryEntry conventions version parameter).steps)] := by
  have path := Draft.steps_concat_objectItem (pathEntry conventions)
    (path.filter (·.isVariable))
  have query := Draft.steps_concat_objectItem (queryEntry conventions version)
    (conventions.binding.query version method)
  exact congrArg₂ (fun front back => [FieldStep.array "parameters" (front ++ back)]) path query

theorem key?_of_mem_description {doc : String} {step : FieldStep}
    (member : step ∈ (Draft.description doc).steps) : step.key? = some "description" := by
  unfold Draft.description at member
  split at member
  · cases member
  · obtain rfl := List.mem_singleton.1 member
    rfl

theorem key?_of_mem_requestBody {method : Method} {step : FieldStep}
    (member : step ∈ (requestBody conventions version method).steps) :
    step.key? = some "requestBody" := by
  unfold requestBody at member
  split at member
  · cases member
  · obtain rfl := List.mem_singleton.1 member
    rfl

/-- The entries are those of the variables in the path, and behind them those of the query. -/
theorem get?_parameters (path : Path) (method : Method) :
    Fields.get? (build (operationBody conventions version path method).steps) "parameters" =
      some (.array (pathEntries conventions path ++ queryEntries conventions version method)) := by
  rw [operationBody, Draft.steps_append, Draft.steps_append, Draft.steps_append, steps_parameters,
    List.append_assoc, List.append_assoc, List.singleton_append, get?_build_alone]
  · rw [FieldStep.run, Fields.get?_alter_self, runItems_append, runItems_objects, runItems_objects]
    rfl
  · intro step member
    rw [key?_of_mem_description member]
    decide
  · intro step member
    rcases List.mem_append.1 member with body | response
    · rw [key?_of_mem_requestBody conventions version body]
      decide
    · obtain rfl := List.mem_singleton.1 response
      exact (show some "responses" ≠ some "parameters" by decide)

end VersionedApi.OpenApi
