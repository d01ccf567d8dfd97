import VersionedApi.Proofs.OpenApi.ParameterPlaces

/-!
# Names of parameters

Whoever reads an operation tells its parameters apart by their names and places.
Nothing else keeps the names apart: two variables of a chain may be called
alike, and so may two parameters of a method.  Then an operation has entries that
cannot be told apart, and only then, because a variable and a parameter in the
query string differ in their places.
-/

namespace VersionedApi.OpenApi

open VersionedApi.Document VersionedApi.Model

/-- No two entries have both the same name and the same place. -/
def Distinguished (entries : Items) : Prop :=
  entries.Pairwise fun one other =>
    ¬ (one.textAt? "name" = other.textAt? "name" ∧ one.textAt? "in" = other.textAt? "in")

instance (entries : Items) : Decidable (Distinguished entries) :=
  inferInstanceAs (Decidable (entries.Pairwise _))

theorem distinguished_iff_nodup {entries : Items} :
    Distinguished entries ↔ (entries.map nameAndPlace).Nodup := by
  simp [Distinguished, List.Nodup, List.pairwise_map, nameAndPlace]

variable (conventions : Conventions) (version : Version)

theorem map_nameAndPlace_parameterNodes (path : Path) (method : Method) :
    (parameterNodes conventions version path method).map nameAndPlace =
      ((path.filter (·.isVariable)).map conventions.binding.segment).map
          (fun segment => (some (segment ++ "_id"), some "path")) ++
        ((conventions.binding.query version method).map conventions.binding.parameterName).map
          fun name => (some name, some "query") := by
  simp [parameterNodes, nameAndPlace_variableNode, nameAndPlace_queryNode, Function.comp_def]

/-- The parameters of an operation are told apart exactly if those of each place are. -/
theorem distinguished_parameterNodes_iff (path : Path) (method : Method) :
    Distinguished (parameterNodes conventions version path method) ↔
      ((path.filter (·.isVariable)).map conventions.binding.segment).Nodup ∧
      ((conventions.binding.query version method).map
        conventions.binding.parameterName).Nodup := by
  have inPath : Function.Injective fun segment : String =>
      (some (segment ++ "_id"), some "path") := fun one other same =>
    (String.append_left_inj _).1 (Option.some.inj (congrArg Prod.fst same))
  have inQuery : Function.Injective fun name : String => (some name, some "query") :=
    fun one other same => Option.some.inj (congrArg Prod.fst same)
  have elsewhere (segment name : String) :
      (some (segment ++ "_id"), some "path") ≠ (some name, some "query") := by
    simp
  rw [distinguished_iff_nodup, map_nameAndPlace_parameterNodes, List.nodup_append,
    List.nodup_map_iff inPath, List.nodup_map_iff inQuery]
  refine and_congr_right fun _ => and_iff_left ?_
  intro one front other back
  obtain ⟨segment, -, rfl⟩ := List.mem_map.1 front
  obtain ⟨name, -, rfl⟩ := List.mem_map.1 back
  exact elsewhere segment name

/-- Texts differ exactly if the names that they spell do. -/
theorem nodup_map_snake_iff {α : Type} (name : α → Name) (members : List α) :
    (members.map fun member => (name member).snake).Nodup ↔ (members.map name).Nodup := by
  have injective : Function.Injective Name.snake := fun one other same => by
    cases one
    cases other
    exact congrArg Name.mk same
  rw [← List.nodup_map_iff injective, List.map_map]
  rfl

/--
The parameters of an operation in a document are told apart exactly if no two
variables of the first chain with its path share a name, and no two of the
parameters that its method sends in the query string do.
-/
theorem document_parameters_distinguished_iff {naming : Naming} {version : Version}
    {key verb : String} {operation : Node}
    (leads : (document ⟨naming, .http⟩ version).pointer? ["paths", key, verb] = some operation) :
    ∃ path resource method entries, version.firstChain? key = some path ∧
      version.endOf? path = some resource ∧
      resource.methods.find? (operationKey ⟨naming, .http⟩ · = verb) = some method ∧
      operation.pointer? ["parameters"] = some (.array entries) ∧
      (Distinguished entries ↔
        ((path.filter (·.isVariable)).map (·.name)).Nodup ∧
        ((Binding.http.query version method).map (·.name)).Nodup) := by
  obtain ⟨path, resource, method, first, ends, leading, rfl⟩ :=
    exists_of_pointer?_operation leads
  refine ⟨path, resource, method, _, first, ends, leading,
    Node.pointer?_object (get?_parameters ⟨naming, .http⟩ version path method), ?_⟩
  rw [entries_eq_parameterNodes, distinguished_parameterNodes_iff, ← nodup_map_snake_iff,
    ← nodup_map_snake_iff]
  rfl

/-! ## Operations of loaded documents -/

/-- The first method with a verb, at the end of a first chain, has its operation in the document. -/
theorem pointer?_document_operation {conventions : Conventions} {version : Version}
    {key verb : String} {path : Path} {resource : Resource} {method : Method}
    (first : version.firstChain? key = some path) (ends : version.endOf? path = some resource)
    (leads : resource.methods.find? (operationKey conventions · = verb) = some method) :
    (document conventions version).pointer? ["paths", key, verb] =
      some (.object (build (operationBody conventions version path method).steps)) := by
  have items : Fields.get? (build (pathItems conventions version).steps) key =
      some (.object (build
        (pathOperations conventions version key path [] resource.methods).steps)) := by
    refine Fields.get?_of_mem ?_ (mem_pathItems conventions first ends)
    rw [build_pathItems, Fields.keys, List.map_map]
    exact nodup_keys_writingChains version
  obtain ⟨operation, alone, held⟩ := get?_pathOperations conventions version key path leads
  have shape : build (OpenApi.operation conventions version path method).steps =
      [(operationKey conventions method,
        .object (build (operationBody conventions version path method).steps))] := rfl
  rw [shape] at alone
  obtain ⟨-, rfl⟩ := Prod.mk.inj (List.singleton_inj.1 alone)
  have split := (document conventions version).pointer?_append ["paths"] [key, verb]
  rw [pointer?_document_paths, Option.bind_some, Node.pointer?_object items,
    Node.pointer?_object held] at split
  exact split

/-- What a test of a loaded description finds is there. -/
theorem exists_operation_of_any (description : Description.ModelDescription) (key verb : String)
    (test : Version → Path → Method → Bool)
    (found : description.load.toOption.any fun model => model.versions.any fun version =>
      (version.firstChain? key).any fun path => (version.endOf? path).any fun resource =>
        (resource.methods.find? (operationKey ⟨.standard, .http⟩ · = verb)).any
          (test version path)) :
    ∃ model version path resource method, description.load = .ok model ∧
      version ∈ model.versions ∧ version.firstChain? key = some path ∧
      version.endOf? path = some resource ∧
      resource.methods.find? (operationKey ⟨.standard, .http⟩ · = verb) = some method ∧
      test version path method := by
  obtain ⟨model, loaded, listed⟩ := Description.exists_eq_ok_of_any found
  simp only [List.any_eq_true, Option.any_eq_true] at listed
  obtain ⟨version, member, path, first, resource, ends, method, leads, passed⟩ := listed
  exact ⟨model, version, path, resource, method, loaded, member, first, ends, leads, passed⟩

/-- A chain with two variables of one name, and parameters that are called like them. -/
def doubled : Description.ModelDescription where
  services := [
    { name := "clusters_mgmt"
      versions := [
        { name := "v1"
          resources := [
            { name := "root"
              locators := [{ name := "node", target := "Node", isVariable := true }] },
            { name := "Node"
              methods := [
                { name := "get", parameters := [{ name := "nodeId", type := "String" }] }]
              locators := [{ name := "node", target := "Part", isVariable := true }] },
            { name := "Part"
              methods := [
                { name := "list"
                  parameters := [
                    { name := "nodeId", type := "String" },
                    { name := "node_id", type := "Long" }] }] }] }] }]

/-- A variable and a parameter in the query string may share a name. -/
theorem document_parameters_distinguished_iff_doubled : ∃ model version operation entries,
    doubled.load = .ok model ∧ version ∈ model.versions ∧
    (document ⟨.standard, .http⟩ version).pointer?
      ["paths", "/api/clusters_mgmt/v1/\x7bnode_id\x7d", "get"] = some operation ∧
    operation.pointer? ["parameters"] = some (.array entries) ∧ Distinguished entries := by
  obtain ⟨model, version, path, resource, method, loaded, member, first, ends, leads, names⟩ :=
    exists_operation_of_any doubled "/api/clusters_mgmt/v1/\x7bnode_id\x7d" "get"
      (fun version (path : List Locator) method =>
        decide ((path.filter (·.isVariable)).map Locator.name).Nodup &&
        decide ((Binding.http.query version method).map Parameter.name).Nodup) (by decide +kernel)
  simp only [Bool.and_eq_true, decide_eq_true_eq] at names
  have served := pointer?_document_operation first ends leads
  obtain ⟨path, resource, method, entries, again, same, listed, stands, apart⟩ :=
    document_parameters_distinguished_iff served
  obtain rfl := Option.some.inj (first.symm.trans again)
  obtain rfl := Option.some.inj (ends.symm.trans same)
  obtain rfl := Option.some.inj (leads.symm.trans listed)
  exact ⟨model, version, _, entries, loaded, member, served, stands, apart.2 names⟩

/-- Two variables of one name, and two parameters of one name, are not told apart. -/
theorem document_parameters_confused : ∃ model version operation entries,
    doubled.load = .ok model ∧ version ∈ model.versions ∧
    (document ⟨.standard, .http⟩ version).pointer?
      ["paths", "/api/clusters_mgmt/v1/\x7bnode_id\x7d/\x7bnode_id\x7d", "get"] =
        some operation ∧
    operation.pointer? ["parameters"] = some (.array entries) ∧
    entries.map nameAndPlace = [
      (some "node_id", some "path"), (some "node_id", some "path"),
      (some "node_id", some "query"), (some "node_id", some "query")] ∧
    ¬ Distinguished entries := by
  obtain ⟨model, version, path, resource, method, loaded, member, first, ends, leads, names⟩ :=
    exists_operation_of_any doubled
      "/api/clusters_mgmt/v1/\x7bnode_id\x7d/\x7bnode_id\x7d" "get"
      (fun version path method =>
        (parameterNodes ⟨.standard, .http⟩ version path method).map nameAndPlace == [
          (some "node_id", some "path"), (some "node_id", some "path"),
          (some "node_id", some "query"), (some "node_id", some "query")]) (by decide +kernel)
  rw [beq_iff_eq] at names
  refine ⟨model, version, _, _, loaded, member, pointer?_document_operation first ends leads,
    Node.pointer?_object (get?_parameters ⟨.standard, .http⟩ version path method), ?_, ?_⟩
  · rw [entries_eq_parameterNodes, names]
  · rw [entries_eq_parameterNodes, distinguished_iff_nodup, names]
    decide

end VersionedApi.OpenApi
