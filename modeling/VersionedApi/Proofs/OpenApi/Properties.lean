import VersionedApi.Proofs.OpenApi.Links
import VersionedApi.Proofs.OpenApi.SchemaKeys
import VersionedApi.Proofs.OpenApi.SharedVerbs
import VersionedApi.Proofs.OpenApi.TypeDenotation

/-!
# Properties of declared things

The schema of a struct has a property for each attribute, behind those that
every class has, and a response with several parameters has one for each of
them.  Nothing keeps the names apart: an attribute may be called like another
one or like a property of classes.  Such declarations are written into one
property, one after the other.  A declaration that shares its name with no other
has a property of its own, which says its documentation and its type.
-/

namespace VersionedApi.OpenApi

open VersionedApi.Document VersionedApi.Model

/-! ## Entries at names that may meet -/

/-- An object holds the entries that steps write, those of one name in one place. -/
structure Combines (entries : Fields) (steps : List FieldStep) (combined : Fields) : Prop where
  /-- Each name appears once, where it is first given. -/
  keys : combined.keys = entries.keys.eraseDups
  /-- The entries stand side by side exactly if no two of them share a name. -/
  whole : combined = entries ↔ entries.keys.Nodup
  /-- A name that is given once holds its entry. -/
  own : ∀ entry ∈ entries, entries.keys.count entry.1 = 1 →
    combined.get? entry.1 = some entry.2
  /-- A name holds what is written at it, one after the other. -/
  shared : ∀ name, combined.get? name =
    Fields.get? (build (steps.filter (·.key? == some name))) name

/-- A name that one step alone writes at holds what this step writes by itself. -/
theorem get?_build_of_count {steps : List FieldStep} {entry : String × Node}
    (member : entry ∈ apart steps) (once : (apart steps).keys.count entry.1 = 1) :
    Fields.get? (build steps) entry.1 = some entry.2 := by
  obtain ⟨step, among, inside⟩ := List.mem_flatMap.1 member
  obtain ⟨none, -⟩ | ⟨key, value, one, written⟩ := step.run_nil
  · rw [none] at inside
    cases inside
  · rw [one] at inside
    obtain rfl := List.mem_singleton.1 inside
    obtain ⟨before, after, rfl⟩ := List.append_of_mem among
    rw [keys_apart, List.filterMap_append, List.filterMap_cons_some written] at once
    simp only [List.count_append, List.count_cons_self] at once
    have free {steps : List FieldStep} (none : (steps.filterMap FieldStep.key?).count key = 0) :
        ∀ step ∈ steps, step.key? ≠ some key := fun step member written =>
      List.not_mem_of_count_eq_zero none (List.mem_filterMap.2 ⟨step, member, written⟩)
    rw [get?_build_alone before after (free (by omega)) (free (by omega)), one]
    simp [Fields.get?]

/-- What steps build combines what they write, each by itself. -/
theorem combines_apart (steps : List FieldStep) : Combines (apart steps) steps (build steps) where
  keys := by rw [keys_build, keys_apart]
  whole := by
    constructor
    · intro same
      rw [← same, keys_build]
      exact nodup_eraseDups _
    · intro distinct
      exact build_eq_apart distinct
  own _ member once := get?_build_of_count member once
  shared name := get?_runFields_filter steps [] name

/-! ## Declarations -/

/-- What describes a declaration: its documentation, if it has any, and its type. -/
def declaration (naming : Naming) (version : Version) (doc : String) (type : TypeId) : Node :=
  .object ((if doc.isEmpty then [] else [("description", .text doc)]) ++
    build (reference naming version type).steps)

/-- The property of a declaration, written by itself, is what describes the declaration. -/
theorem build_declaration (naming : Naming) (version : Version) (doc : String) (type : TypeId) :
    .object (build (Draft.description doc ++ reference naming version type).steps) =
      declaration naming version doc type := by
  rw [build, Draft.steps_append, runFields_append, declaration, Draft.description]
  cases doc.isEmpty with
  | true => rfl
  | false =>
      have front : runFields (Draft.text "description" doc).steps [] =
          [("description", .text doc)] := rfl
      rw [if_neg Bool.false_ne_true, if_neg Bool.false_ne_true, front]
      exact congrArg Node.object (runFields_reference (by simp [Fields.keys]) type)

variable (conventions : Conventions) (version : Version)

/-- The properties of a struct: those that every class has, if it is one, and its attributes. -/
def propertyEntries (type : ApiType) : Fields :=
  (if type.kind.isClass then
    build (identityProperties (conventions.naming.schemaName type)).steps else []) ++
  type.kind.attributes.map fun attr => (conventions.naming.attributeName attr,
    declaration conventions.naming version attr.doc attr.type)

def responseEntries (method : Method) : Fields :=
  (conventions.binding.response method).map fun parameter =>
    (conventions.naming.parameterName parameter,
      declaration conventions.naming version parameter.doc parameter.type)

def structProperties (type : ApiType) : Draft FieldStep :=
  (if type.kind.isClass then identityProperties (conventions.naming.schemaName type)
    else Draft.none) ++
  Draft.concat (type.kind.attributes.map (attributeProperty conventions version))

def responseProperties (method : Method) : Draft FieldStep :=
  Draft.concat ((conventions.binding.response method).map (responseProperty conventions version))

/-- Each of the properties that declarations write, by itself, is what describes its declaration. -/
theorem apart_declarations {α : Type} (naming : Naming) (version : Version) (key doc : α → String)
    (type : α → TypeId) (members : List α) :
    apart (Draft.concat (members.map fun member => Draft.object (key member)
        (Draft.description (doc member) ++ reference naming version (type member)))).steps =
      members.map fun member =>
        (key member, declaration naming version (doc member) (type member)) := by
  rw [Draft.steps_concat, apart, List.flatMap_assoc, List.flatMap_map, List.map_eq_flatMap]
  congr 1
  funext member
  rw [← build_declaration]
  rfl

theorem apart_structProperties (type : ApiType) :
    apart (structProperties conventions version type).steps =
      propertyEntries conventions version type := by
  have identity (schema : String) : apart (identityProperties schema).steps =
      build (identityProperties schema).steps :=
    (build_eq_apart (by rw [keys_apart]; exact (by decide : ["kind", "id", "href"].Nodup))).symm
  have own := apart_declarations conventions.naming version conventions.naming.attributeName (·.doc)
    (·.type) type.kind.attributes
  rw [structProperties, propertyEntries, Draft.steps_append, apart_append, ← own]
  congr 1
  cases type.kind.isClass with
  | true => exact identity _
  | false => rfl

theorem apart_responseProperties (method : Method) :
    apart (responseProperties conventions version method).steps =
      responseEntries conventions version method :=
  apart_declarations conventions.naming version conventions.naming.parameterName (·.doc) (·.type)
    (conventions.binding.response method)

/-! ## Where the properties stand -/

variable {conventions version}

/-- A struct whose schema is its own has its properties there. -/
theorem pointer?_document_properties {type : ApiType} (declared : type ∈ version.schemaTypes)
    (struct : type.kind.isStruct) (unlike : conventions.naming.schemaName type ≠ errorSchemaName)
    (single : (version.schemaTypes.map conventions.naming.schemaName).count
      (conventions.naming.schemaName type) = 1) :
    (document conventions version).pointer?
        ["components", "schemas", conventions.naming.schemaName type, "properties"] =
      some (.object (build (structProperties conventions version type).steps)) := by
  obtain ⟨value, alone, found⟩ := get?_schemas_of_single declared unlike single
  have shape : build (ownSchema conventions version type).steps =
      [(conventions.naming.schemaName type, .object (build ((Draft.description type.doc).steps ++
        [.object "properties" (structProperties conventions version type).steps])))] := by
    cases kind : type.kind with
    | struct attributes identified =>
        unfold ownSchema
        rw [kind]
        rfl
    | _ => rw [kind] at struct; cases struct
  obtain rfl : _ = value := congrArg Prod.snd (List.singleton_inj.1 (shape.symm.trans alone))
  have split := (document conventions version).pointer?_append ["components", "schemas"]
    [conventions.naming.schemaName type, "properties"]
  rw [pointer?_document, Option.bind_some, Node.pointer?_object found,
    Node.pointer?_object (get?_build_object _ [] ?_ nofun), Node.pointer?] at split
  · exact split
  intro step member
  rw [key?_of_mem_description member]
  decide

/-- The responses of an operation are written by one step. -/
theorem get?_responses (path : Path) (method : Method) :
    Fields.get? (build (operationBody conventions version path method).steps) "responses" =
      some (.object (build
        [.object (conventions.binding.status method) (Draft.description "Success." ++
          responseBody conventions version (conventions.binding.response method)).steps,
        .object "default" (Draft.description "Error." ++
          content (schemaLink errorSchemaName)).steps])) := by
  refine get?_build_object (Draft.description method.doc ++
    parameters conventions version path method ++ requestBody conventions version method).steps []
    ?_ nofun
  intro step member
  rw [Draft.steps_append, Draft.steps_append, steps_parameters, List.mem_append, List.mem_append,
    List.mem_singleton] at member
  obtain (document | rfl) | body := member
  · rw [key?_of_mem_description document]
    decide
  · exact (show some "parameters" ≠ some "responses" by decide)
  · rw [key?_of_mem_requestBody conventions version body]
    decide

/-- A response with several parameters has its properties in its body, whatever its status. -/
theorem pointer?_response_properties (path : Path) {method : Method}
    (several : 2 ≤ (conventions.binding.response method).length) :
    (Node.object (build (operationBody conventions version path method).steps)).pointer?
        ["responses", conventions.binding.status method, "content", "application/json", "schema",
          "properties"] =
      some (.object (build (responseProperties conventions version method).steps)) := by
  have body : responseBody conventions version (conventions.binding.response method) =
      content (Draft.text "type" "object" ++
        Draft.object "properties" (responseProperties conventions version method)) := by
    unfold responseProperties
    match conventions.binding.response method, several with
    | first :: second :: rest, _ => rfl
  rw [Node.pointer?_object (get?_responses path method), body]
  generalize responseProperties conventions version method = properties
  by_cases same : conventions.binding.status method = "default"
  · -- The response to errors adds a link to the body, and the properties stay.
    rw [same]
    rfl
  · refine (Node.pointer?_object (get?_build_object [] [_] (List.forall_mem_nil _) ?_)).trans rfl
    exact List.forall_mem_singleton.2 fun other => same (Option.some.inj other).symm

/-- Every operation of a document is that of the first method with its verb. -/
theorem exists_of_pointer?_operation {key verb : String} {operation : Node}
    (leads : (document conventions version).pointer? ["paths", key, verb] = some operation) :
    ∃ path resource method, version.firstChain? key = some path ∧
      version.endOf? path = some resource ∧
      resource.methods.find? (operationKey conventions · = verb) = some method ∧
      operation = .object (build (operationBody conventions version path method).steps) := by
  have inside : (Node.object (build (pathItems conventions version).steps)).pointer?
      [key, verb] = some operation := by
    have split := (document conventions version).pointer?_append ["paths"] [key, verb]
    rw [pointer?_document_paths] at split
    exact split.symm.trans leads
  obtain ⟨_, item, ⟨rfl⟩, among, below⟩ := Node.exists_of_pointer?_cons inside
  rw [build_pathItems] at among
  obtain ⟨⟨⟨key, path⟩, resource⟩, writes, ⟨rfl⟩⟩ := List.mem_map.1 among
  obtain ⟨first, ends⟩ := (mem_writingChains_iff version).1 writes
  obtain ⟨_, value, ⟨rfl⟩, listed, here⟩ := Node.exists_of_pointer?_cons below
  rw [build_pathOperations] at listed
  obtain ⟨method, leading, ⟨rfl⟩⟩ := List.mem_map.1 listed
  exact ⟨path, resource, method, first, ends, ((mem_leading_iff conventions).1 leading).2,
    (Option.some.inj here).symm⟩

/--
A struct that shares the name of its schema with no other type has there, as
properties, those of a class, if it is one, and one per attribute.  A response
with several parameters has one per parameter.  Each name appears once, and all
declarations have properties of their own exactly if their names differ: under
a name is what its declarations write one after the other, hence exactly the
documentation and the type of a declaration that is the only one of its name.
-/
theorem properties_of_declared (conventions : Conventions) (version : Version) :
    (∀ type ∈ version.schemaTypes, type.kind.isStruct →
      conventions.naming.schemaName type ≠ "Error" →
      (version.schemaTypes.map conventions.naming.schemaName).count
        (conventions.naming.schemaName type) = 1 →
      ∃ properties, (document conventions version).pointer?
          ["components", "schemas", conventions.naming.schemaName type, "properties"] =
            some (.object properties) ∧
        Combines (propertyEntries conventions version type)
          (structProperties conventions version type).steps properties) ∧
    ∀ key verb operation,
      (document conventions version).pointer? ["paths", key, verb] = some operation →
      ∃ path resource method, version.firstChain? key = some path ∧
        version.endOf? path = some resource ∧
        resource.methods.find? (operationKey conventions · = verb) = some method ∧
        (2 ≤ (conventions.binding.response method).length →
          ∃ properties, operation.pointer? ["responses", conventions.binding.status method,
              "content", "application/json", "schema", "properties"] =
                some (.object properties) ∧
            Combines (responseEntries conventions version method)
              (responseProperties conventions version method).steps properties) := by
  constructor
  · intro type declared struct unlike single
    have combines := combines_apart (structProperties conventions version type).steps
    rw [apart_structProperties] at combines
    exact ⟨_, pointer?_document_properties declared struct unlike single, combines⟩
  · intro key verb operation leads
    obtain ⟨path, resource, method, first, ends, leading, rfl⟩ :=
      exists_of_pointer?_operation leads
    refine ⟨path, resource, method, first, ends, leading, fun several => ?_⟩
    have combines := combines_apart (responseProperties conventions version method).steps
    rw [apart_responseProperties] at combines
    exact ⟨_, pointer?_response_properties path several, combines⟩

/-- A class with an identifier of its own, and a method that returns two parameters. -/
def renumbered : Description.VersionDescription where
  name := "v1"
  types := [
    { name := "Cluster", form := .identified
      attributes := [
        { name := "id", type := "Long" },
        { name := "name", doc := "Name of the cluster.", type := "String" }] }]
  resources := [
    { name := "root", locators := [{ name := "clusters", target := "Clusters" }] },
    { name := "Clusters"
      methods := [
        { name := "list"
          parameters := [
            { name := "items", type := "[]Cluster", direction := .outbound },
            { name := "total", type := "Integer", direction := .outbound }] }] }]

theorem properties_of_declared_renumbered :
    ∃ version, Description.loadVersion ⟨"clusters_mgmt"⟩ renumbered = .ok version ∧
      (∃ properties, (document (.ofBinding .http) version).pointer?
          ["components", "schemas", "Cluster", "properties"] = some (.object properties) ∧
        Fields.keys properties = ["kind", "id", "href", "name"]) ∧
      ∃ operation, (document (.ofBinding .http) version).pointer?
          ["paths", "/api/clusters_mgmt/v1/clusters", "get"] = some operation ∧
        ∃ properties, operation.pointer?
            ["responses", "200", "content", "application/json", "schema", "properties"] =
              some (.object properties) ∧
          Fields.keys properties = ["items", "total"] := by
  obtain ⟨version, loaded, evaluated⟩ := Description.exists_eq_ok_of_any
    (show (Description.loadVersion ⟨"clusters_mgmt"⟩ renumbered).toOption.any fun version =>
      version.schemaTypes.map Naming.standard.schemaName == ["Cluster"] &&
      version.schemaTypes.all (fun type => type.kind.isStruct &&
        Fields.keys (propertyEntries (.ofBinding .http) version type) ==
          ["kind", "id", "href", "id", "name"]) &&
      ((document (.ofBinding .http) version).pointer?
        ["paths", "/api/clusters_mgmt/v1/clusters", "get"]).isSome &&
      version.resources.all fun resource => resource.methods.all fun method =>
        Binding.http.status method == "200" &&
        Fields.keys (responseEntries (.ofBinding .http) version method) == ["items", "total"] by
      decide +kernel)
  simp only [Bool.and_eq_true, List.all_eq_true, beq_iff_eq] at evaluated
  obtain ⟨⟨⟨names, struct⟩, served⟩, returned⟩ := evaluated
  obtain ⟨structs, operations⟩ := properties_of_declared (.ofBinding .http) version
  refine ⟨version, loaded, ?_, ?_⟩
  · obtain ⟨type, declared, name⟩ : ∃ type ∈ version.schemaTypes,
        (Conventions.ofBinding .http).naming.schemaName type = "Cluster" :=
      List.mem_map.1 (names ▸ by decide)
    have single : (version.schemaTypes.map (Conventions.ofBinding .http).naming.schemaName).count
        "Cluster" = 1 := (congrArg (List.count "Cluster") names).trans (by decide)
    obtain ⟨properties, stands, combines⟩ := structs type declared (struct type declared).1
      (by rw [name]; decide) (by rw [name]; exact single)
    refine ⟨properties, name ▸ stands, combines.keys.trans ?_⟩
    rw [(struct type declared).2]
    decide
  · obtain ⟨operation, leads⟩ := Option.isSome_iff_exists.1 served
    obtain ⟨path, resource, method, -, ends, leading, several⟩ := operations _ _ _ leads
    obtain ⟨id, -, found⟩ := Option.bind_eq_some_iff.1 ends
    obtain ⟨status, entries⟩ := returned resource (List.mem_of_getElem? found) method
      (List.mem_of_find?_eq_some leading)
    have two : ((Conventions.ofBinding .http).binding.response method).length = 2 := by
      simpa [responseEntries, Fields.keys] using congrArg List.length entries
    obtain ⟨properties, stands, combines⟩ := several (Nat.le_of_eq two.symm)
    refine ⟨operation, leads, properties, status ▸ stands, combines.keys.trans ?_⟩
    rw [entries]
    decide

/--
A class and its attribute that share a name get one property between them.  It
has the documentation of the one and the format of the other, so the attribute
has no property of its own.
-/
theorem properties_blend :
    ∃ version, Description.loadVersion ⟨"clusters_mgmt"⟩ renumbered = .ok version ∧
      ∃ type ∈ version.schemaTypes, type.kind.isStruct ∧
        Naming.standard.schemaName type ≠ "Error" ∧
        (version.schemaTypes.map Naming.standard.schemaName).count
          (Naming.standard.schemaName type) = 1 ∧
        ∃ properties, (document (.ofBinding .http) version).pointer?
            ["components", "schemas", Naming.standard.schemaName type, "properties"] =
              some (.object properties) ∧
          properties ≠ propertyEntries (.ofBinding .http) version type ∧
          ∃ blend, Fields.get? properties "id" = some blend ∧
            blend.textAt? "description" = some "Unique identifier of the object." ∧
            blend.textAt? "format" = some "int64" := by
  obtain ⟨version, loaded, evaluated⟩ := Description.exists_eq_ok_of_any
    (show (Description.loadVersion ⟨"clusters_mgmt"⟩ renumbered).toOption.any fun version =>
      version.schemaTypes.map Naming.standard.schemaName == ["Cluster"] &&
      version.schemaTypes.all fun type =>
        let properties := build (structProperties (.ofBinding .http) version type).steps
        type.kind.isStruct &&
        Fields.keys properties != Fields.keys (propertyEntries (.ofBinding .http) version type) &&
        (Fields.get? properties "id").any fun blend =>
          blend.textAt? "description" == some "Unique identifier of the object." &&
          blend.textAt? "format" == some "int64" by
      decide +kernel)
  simp only [Bool.and_eq_true, List.all_eq_true, beq_iff_eq, bne_iff_ne, Option.any_eq_true]
    at evaluated
  obtain ⟨names, merged⟩ := evaluated
  obtain ⟨type, declared, name⟩ : ∃ type ∈ version.schemaTypes,
      Naming.standard.schemaName type = "Cluster" := List.mem_map.1 (names ▸ by decide)
  obtain ⟨⟨struct, differ⟩, blend⟩ := merged type declared
  have unlike : Naming.standard.schemaName type ≠ "Error" := by rw [name]; decide
  have single : (version.schemaTypes.map Naming.standard.schemaName).count
      (Naming.standard.schemaName type) = 1 := by rw [names, name]; decide
  exact ⟨version, loaded, type, declared, struct, unlike, single, _,
    pointer?_document_properties declared struct unlike single,
    fun same => differ (congrArg Fields.keys same), blend⟩

end VersionedApi.OpenApi
