import VersionedApi.Proofs.OpenApi.DistinctPaths

/-!
# Rules on the fields of a document

A rule that allows links to the schemas that are there, objects under the keys
that the conventions choose, and anything under other keys is obeyed by every
field of a document, however deep.
-/

namespace VersionedApi.OpenApi

open VersionedApi.Document VersionedApi.Model

/-! ## Drafts that obey a rule -/

namespace Draft

def Obeys (rule : String → Node → Prop) (draft : Draft FieldStep) : Prop :=
  FieldStep.AllObey rule draft.steps

def ItemsObey (rule : String → Node → Prop) (draft : Draft ItemStep) : Prop :=
  ItemStep.AllObey rule draft.steps

variable {rule : String → Node → Prop}

@[simp] theorem obeys_none : (none : Draft FieldStep).Obeys rule :=
  trivial

@[simp] theorem obeys_problem (problem : Problem) :
    (Draft.problem problem : Draft FieldStep).Obeys rule :=
  trivial

@[simp] theorem obeys_append {first second : Draft FieldStep} :
    (first ++ second).Obeys rule ↔ first.Obeys rule ∧ second.Obeys rule := by
  simp [Obeys, FieldStep.allObey_iff, or_imp, forall_and]

@[simp] theorem itemsObey_append {first second : Draft ItemStep} :
    (first ++ second).ItemsObey rule ↔ first.ItemsObey rule ∧ second.ItemsObey rule := by
  simp [ItemsObey, ItemStep.allObey_iff, or_imp, forall_and]

@[simp] theorem obeys_concat_map {α : Type} {draft : α → Draft FieldStep} {members : List α} :
    (concat (members.map draft)).Obeys rule ↔ ∀ member ∈ members, (draft member).Obeys rule := by
  simp only [Obeys, FieldStep.allObey_iff, steps_concat, List.flatMap_map, List.mem_flatMap]
  exact ⟨fun all member present step inside => all step ⟨member, present, inside⟩,
    fun all step ⟨member, present, inside⟩ => all member present step inside⟩

@[simp] theorem itemsObey_concat_map {α : Type} {draft : α → Draft ItemStep} {members : List α} :
    (concat (members.map draft)).ItemsObey rule ↔
      ∀ member ∈ members, (draft member).ItemsObey rule := by
  simp only [ItemsObey, ItemStep.allObey_iff, steps_concat, List.flatMap_map, List.mem_flatMap]
  exact ⟨fun all member present step inside => all step ⟨member, present, inside⟩,
    fun all step ⟨member, present, inside⟩ => all member present step inside⟩

@[simp] theorem obeys_text {key value : String} :
    (text key value).Obeys rule ↔ rule key (.text value) := by
  simp [Obeys, text, FieldStep.AllObey, FieldStep.Obeys, Node.obeys_text]

@[simp] theorem obeys_flag {key : String} {value : Bool} :
    (flag key value).Obeys rule ↔ rule key (.flag value) := by
  simp [Obeys, flag, FieldStep.AllObey, FieldStep.Obeys, Node.obeys_flag]

@[simp] theorem obeys_object {key : String} {inner : Draft FieldStep} :
    (object key inner).Obeys rule ↔ (∀ fields, rule key (.object fields)) ∧ inner.Obeys rule := by
  simp [Obeys, object, FieldStep.AllObey, FieldStep.Obeys]

@[simp] theorem obeys_array {key : String} {inner : Draft ItemStep} :
    (array key inner).Obeys rule ↔ (∀ items, rule key (.array items)) ∧ inner.ItemsObey rule := by
  simp [Obeys, ItemsObey, array, FieldStep.AllObey, FieldStep.Obeys]

@[simp] theorem itemsObey_item (value : String) : (item value).ItemsObey rule := by
  simp [ItemsObey, item, ItemStep.AllObey, ItemStep.Obeys, Node.obeys_text]

@[simp] theorem itemsObey_objectItem {inner : Draft FieldStep} :
    (objectItem inner).ItemsObey rule ↔ inner.Obeys rule := by
  simp [Obeys, ItemsObey, objectItem, ItemStep.AllObey, ItemStep.Obeys]

end Draft

/-! ## Schemas that are there -/

variable {conventions : Conventions} {version : Version}

def schemaNames (conventions : Conventions) (version : Version) : List String :=
  Fields.keys (build (schemas conventions version).steps)

theorem mem_schemaNames_iff {name : String} :
    name ∈ schemaNames conventions version ↔
      ∃ step ∈ (schemas conventions version).steps, step.key? = some name := by
  rw [schemaNames, build, mem_keys_runFields]
  simp [Fields.keys]

theorem errorSchemaName_mem_schemaNames : errorSchemaName ∈ schemaNames conventions version :=
  mem_schemaNames_iff.2 ⟨_, List.mem_append_right _ List.mem_cons_self, rfl⟩

theorem mem_schemaNames_of_typeSchema {type : ApiType} (declared : type ∈ version.types)
    {name : String} {inner : List FieldStep}
    (written : .object name inner ∈ (typeSchema conventions version type).steps) :
    name ∈ schemaNames conventions version := by
  refine mem_schemaNames_iff.2 ⟨.object name inner, ?_, rfl⟩
  rw [schemas, Draft.steps_append, Draft.steps_concat, List.flatMap_map]
  exact List.mem_append_left _ (List.mem_flatMap.2 ⟨type, declared, written⟩)

/--
The schema name of an enum or struct is among the schemas.  A type that is left
out for its name has the name of the schema of errors.
-/
theorem schemaName_mem_schemaNames {type : ApiType} (declared : type ∈ version.types)
    (described : type.kind.hasSchema) :
    conventions.naming.schemaName type ∈ schemaNames conventions version := by
  by_cases reserved : conventions.naming.schemaName type = errorSchemaName
  · rw [reserved]
    exact errorSchemaName_mem_schemaNames
  · cases kind : type.kind with
    | enum values =>
        have written : typeSchema conventions version type = enumSchema conventions type := by
          simp [typeSchema, kind, reserved]
        exact mem_schemaNames_of_typeSchema declared (by rw [written]; exact List.mem_cons_self)
    | struct attributes identified =>
        have written : typeSchema conventions version type =
            structSchema conventions version type := by
          simp [typeSchema, kind, reserved]
        exact mem_schemaNames_of_typeSchema declared (by rw [written]; exact List.mem_cons_self)
    | _ => rw [kind] at described; cases described

/-! ## Keys that conventions choose -/

/-- The keys of a document that depend on its conventions and its version. -/
inductive Chosen (conventions : Conventions) (version : Version) : String → Prop where
  | schema {type : ApiType} (declared : type ∈ version.types) :
      Chosen conventions version (conventions.naming.schemaName type)
  | property {type : ApiType} (declared : type ∈ version.types) {attr : Attribute}
      (member : attr ∈ type.kind.attributes) :
      Chosen conventions version (conventions.naming.attributeName attr)
  | path (path : Path) : Chosen conventions version (version.absolutePath path)
  | verb (method : Method) : Chosen conventions version (operationKey conventions method)
  | status (method : Method) : Chosen conventions version (conventions.binding.status method)
  | parameter {resource : Resource} (declared : resource ∈ version.resources) {method : Method}
      (offered : method ∈ resource.methods) {parameter : Parameter}
      (returned : parameter ∈ conventions.binding.response method) :
      Chosen conventions version (conventions.naming.parameterName parameter)

/-- A rule that says nothing on fields but links, and allows those to schemas that are there. -/
structure Admits (rule : String → Node → Prop) (conventions : Conventions)
    (version : Version) : Prop where
  fixed {key : String} {value : Node} (unlike : key ≠ "$ref") : rule key value
  link {name : String} (defined : name ∈ schemaNames conventions version) :
    rule "$ref" (.text (schemaRoot ++ name))
  chosen {key : String} (choice : Chosen conventions version key) (fields : Fields) :
    rule key (.object fields)

variable {rule : String → Node → Prop} (admits : Admits rule conventions version)

include admits

/-! ## Single fields -/

theorem obeys_fixedText {key value : String} (unlike : key ≠ "$ref") :
    (Draft.text key value).Obeys rule :=
  Draft.obeys_text.2 (admits.fixed unlike)

theorem obeys_fixedObject {key : String} (unlike : key ≠ "$ref") {inner : Draft FieldStep}
    (obeys : inner.Obeys rule) : (Draft.object key inner).Obeys rule :=
  Draft.obeys_object.2 ⟨fun _ => admits.fixed unlike, obeys⟩

theorem obeys_fixedArray {key : String} (unlike : key ≠ "$ref") {inner : Draft ItemStep}
    (obeys : inner.ItemsObey rule) : (Draft.array key inner).Obeys rule :=
  Draft.obeys_array.2 ⟨fun _ => admits.fixed unlike, obeys⟩

theorem obeys_chosenObject {key : String} (choice : Chosen conventions version key)
    {inner : Draft FieldStep} (obeys : inner.Obeys rule) : (Draft.object key inner).Obeys rule :=
  Draft.obeys_object.2 ⟨admits.chosen choice, obeys⟩

theorem obeys_description (doc : String) : (Draft.description doc).Obeys rule := by
  unfold Draft.description
  split
  · exact Draft.obeys_none
  · exact obeys_fixedText admits (by decide)

theorem obeys_property (type : String) {key doc : String} (unlike : key ≠ "$ref") :
    (property key doc type).Obeys rule := by
  refine obeys_fixedObject admits unlike (Draft.obeys_append.2 ⟨?_, ?_⟩)
  · exact obeys_description admits doc
  · exact obeys_fixedText admits (by decide)

/-! ## References -/

theorem obeys_scalar (primitive : Primitive) : (scalar primitive).Obeys rule := by
  refine Draft.obeys_append.2 ⟨obeys_fixedText admits (by decide), ?_⟩
  split
  · exact Draft.obeys_none
  · exact obeys_fixedText admits (by decide)

theorem obeys_schemaLink {name : String} (defined : name ∈ schemaNames conventions version) :
    (schemaLink name).Obeys rule :=
  Draft.obeys_text.2 (admits.link defined)

/-- References obey the rule at any depth. -/
theorem obeys_referenceWithin (depth : Nat) (id : TypeId) :
    (referenceWithin conventions.naming version depth id).Obeys rule := by
  induction depth generalizing id with
  | zero => exact Draft.obeys_none
  | succ depth ih =>
      unfold referenceWithin
      cases found : version.type? id with
      | none => exact Draft.obeys_problem _
      | some type =>
          have declared : type ∈ version.types := List.mem_of_getElem? found
          dsimp only
          cases kind : type.kind with
          | primitive primitive => exact obeys_scalar admits primitive
          | interface => exact Draft.obeys_problem _
          | enum values =>
              exact obeys_schemaLink admits
                (schemaName_mem_schemaNames declared (by rw [kind]; rfl))
          | struct attributes identified =>
              exact obeys_schemaLink admits
                (schemaName_mem_schemaNames declared (by rw [kind]; rfl))
          | list element =>
              refine Draft.obeys_append.2 ⟨obeys_fixedText admits (by decide), ?_⟩
              exact obeys_fixedObject admits (by decide) (ih element)
          | map element =>
              refine Draft.obeys_append.2 ⟨obeys_fixedText admits (by decide), ?_⟩
              exact obeys_fixedObject admits (by decide) (ih element)

theorem obeys_reference (id : TypeId) :
    (reference conventions.naming version id).Obeys rule :=
  obeys_referenceWithin admits _ id

/-- The documentation and the type of something. -/
theorem obeys_described (doc : String) (id : TypeId) :
    (Draft.description doc ++ reference conventions.naming version id).Obeys rule :=
  Draft.obeys_append.2 ⟨obeys_description admits doc, obeys_reference admits id⟩

/-! ## Operations -/

theorem obeys_content {schema : Draft FieldStep} (obeys : schema.Obeys rule) :
    (content schema).Obeys rule := by
  refine obeys_fixedObject admits (by decide) (obeys_fixedObject admits (by decide) ?_)
  exact obeys_fixedObject admits (by decide) obeys

theorem obeys_parameters (path : Path) (method : Method) :
    (parameters conventions version path method).Obeys rule := by
  have text {key value : String} (unlike : key ≠ "$ref") : rule key (.text value) :=
    admits.fixed unlike
  have schema (fields : Fields) : rule "schema" (.object fields) := admits.fixed (by decide)
  refine obeys_fixedArray admits (by decide) (Draft.itemsObey_append.2 ⟨?_, ?_⟩)
  · refine Draft.itemsObey_concat_map.2 fun locator _ => ?_
    simp [pathParameter, text, schema]
  · refine Draft.itemsObey_concat_map.2 fun parameter _ => ?_
    simp [queryParameter, text, schema, obeys_description admits, obeys_reference admits]

theorem obeys_requestBody (method : Method) :
    (requestBody conventions version method).Obeys rule := by
  unfold requestBody
  split
  · exact Draft.obeys_none
  · exact obeys_fixedObject admits (by decide) (obeys_content admits (obeys_reference admits _))

section Method

variable {resource : Resource} (declared : resource ∈ version.resources) {method : Method}
  (offered : method ∈ resource.methods)

include declared offered

theorem obeys_responseBody :
    (responseBody conventions version (conventions.binding.response method)).Obeys rule := by
  have returned : ∀ parameter ∈ conventions.binding.response method,
      (responseProperty conventions version parameter).Obeys rule := fun parameter member =>
    obeys_chosenObject admits (.parameter declared offered member) (obeys_described admits _ _)
  unfold responseBody
  split
  · exact Draft.obeys_none
  · exact obeys_content admits (obeys_reference admits _)
  · refine obeys_content admits (Draft.obeys_append.2 ⟨?_, ?_⟩)
    · exact obeys_fixedText admits (by decide)
    · exact obeys_fixedObject admits (by decide) (Draft.obeys_concat_map.2 returned)

theorem obeys_responses : (responses conventions version method).Obeys rule := by
  refine obeys_fixedObject admits (by decide) (Draft.obeys_append.2 ⟨?_, ?_⟩)
  · refine obeys_chosenObject admits (.status method) (Draft.obeys_append.2 ⟨?_, ?_⟩)
    · exact obeys_description admits _
    · exact obeys_responseBody admits declared offered
  · refine obeys_fixedObject admits (by decide) (Draft.obeys_append.2 ⟨?_, ?_⟩)
    · exact obeys_description admits _
    · exact obeys_content admits (obeys_schemaLink admits errorSchemaName_mem_schemaNames)

theorem obeys_operation (path : Path) :
    (operation conventions version path method).Obeys rule := by
  refine obeys_chosenObject admits (.verb method) ?_
  simp only [Draft.obeys_append]
  exact ⟨⟨⟨obeys_description admits _, obeys_parameters admits path method⟩,
    obeys_requestBody admits method⟩, obeys_responses admits declared offered⟩

end Method

/-! ## Items of paths -/

theorem obeys_pathOperations (key : String) (path : Path) {resource : Resource}
    (declared : resource ∈ version.resources) (taken : List String) {methods : List Method}
    (offered : ∀ method ∈ methods, method ∈ resource.methods) :
    (pathOperations conventions version key path taken methods).Obeys rule := by
  induction methods generalizing taken with
  | nil => exact Draft.obeys_none
  | cons method rest ih =>
      have first := offered method List.mem_cons_self
      have later : ∀ other ∈ rest, other ∈ resource.methods := fun other member =>
        offered other (List.mem_cons_of_mem _ member)
      unfold pathOperations
      dsimp only
      split
      · exact Draft.obeys_append.2 ⟨Draft.obeys_problem _, ih _ later⟩
      · exact Draft.obeys_append.2 ⟨obeys_operation admits declared first path, ih _ later⟩

theorem obeys_pathItem {key : String} {path : Path}
    (first : version.firstChain? key = some path) :
    (pathItem conventions version key path).Obeys rule := by
  have spelled := Version.absolutePath_of_firstChain? first
  rcases pathItem_cases conventions version key path with ⟨resource, ends, item⟩ | ⟨-, item⟩
  · obtain ⟨target, -, found⟩ := Option.bind_eq_some_iff.1 ends
    have declared : resource ∈ version.resources := List.mem_of_getElem? found
    rw [item]
    refine obeys_chosenObject admits (spelled ▸ .path path) ?_
    exact obeys_pathOperations admits key path declared [] fun method offered => offered
  · rw [item]
    exact Draft.obeys_problem _

theorem obeys_pathItems : (pathItems conventions version).Obeys rule := by
  refine Draft.obeys_concat_map.2 ?_
  rintro ⟨key, path⟩ member
  exact obeys_pathItem admits (mem_distinctPaths_iff.1 member)

/-! ## Schemas -/

theorem obeys_enumSchema {type : ApiType} (declared : type ∈ version.types) :
    (enumSchema conventions type).Obeys rule := by
  refine obeys_chosenObject admits (.schema declared) ?_
  simp only [Draft.obeys_append]
  refine ⟨⟨obeys_description admits _, obeys_fixedText admits (by decide)⟩, ?_⟩
  exact obeys_fixedArray admits (by decide)
    (Draft.itemsObey_concat_map.2 fun value _ => Draft.itemsObey_item _)

theorem obeys_structSchema {type : ApiType} (declared : type ∈ version.types) :
    (structSchema conventions version type).Obeys rule := by
  refine obeys_chosenObject admits (.schema declared) ?_
  refine Draft.obeys_append.2 ⟨obeys_description admits _, ?_⟩
  refine obeys_fixedObject admits (by decide) (Draft.obeys_append.2 ⟨?_, ?_⟩)
  · split
    · simp only [identityProperties, Draft.obeys_append]
      exact ⟨⟨obeys_property admits _ (by decide), obeys_property admits _ (by decide)⟩,
        obeys_property admits _ (by decide)⟩
    · exact Draft.obeys_none
  · refine Draft.obeys_concat_map.2 fun attr member => ?_
    exact obeys_chosenObject admits (.property declared member) (obeys_described admits _ _)

theorem obeys_errorSchema : errorSchema.Obeys rule := by
  have text {key value : String} (unlike : key ≠ "$ref") : rule key (.text value) :=
    admits.fixed unlike
  have flag {key : String} {value : Bool} (unlike : key ≠ "$ref") : rule key (.flag value) :=
    admits.fixed unlike
  have object {key : String} {fields : Fields} (unlike : key ≠ "$ref") :
      rule key (.object fields) := admits.fixed unlike
  simp [errorSchema, errorSchemaName, obeys_property admits, obeys_description admits, text, flag,
    object]

theorem obeys_schemas : (schemas conventions version).Obeys rule := by
  refine Draft.obeys_append.2 ⟨Draft.obeys_concat_map.2 fun type declared => ?_,
    obeys_errorSchema admits⟩
  unfold typeSchema
  split
  · exact Draft.obeys_problem _
  · split
    · exact obeys_enumSchema admits declared
    · exact obeys_structSchema admits declared
    · exact Draft.obeys_none

/-! ## The whole document -/

/-- A whole document obeys every rule that it has to. -/
theorem obeys_specification : (specification conventions version).Obeys rule := by
  have text {key value : String} (unlike : key ≠ "$ref") : rule key (.text value) :=
    admits.fixed unlike
  have object {key : String} {fields : Fields} (unlike : key ≠ "$ref") :
      rule key (.object fields) := admits.fixed unlike
  have array {key : String} {items : Items} (unlike : key ≠ "$ref") :
      rule key (.array items) := admits.fixed unlike
  have nothing : (Draft.none : Draft ItemStep).ItemsObey rule := trivial
  simp [specification, info, servers, security, obeys_pathItems admits, obeys_schemas admits, text,
    object, array, nothing]

end VersionedApi.OpenApi
