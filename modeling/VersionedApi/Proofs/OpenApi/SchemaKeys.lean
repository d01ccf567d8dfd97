import VersionedApi.Proofs.Description.Faithful
import VersionedApi.Proofs.OpenApi.Rules

/-!
# Schemas of declared types

The types that a version declares differ by name, but the naming may give the
schemas of two of them one name.  Such types are written into one schema, one
after the other in the order of their declaration.  A type has a schema of its
own exactly if no other type shares the name of its schema.
-/

namespace VersionedApi.Description

open VersionedApi.Model

/-- The types that get a schema are the declared ones, in the order of their declaration. -/
theorem VersionAgrees.names_schemaTypes {service : Name} {description : VersionDescription}
    {version : Version} (agrees : VersionAgrees inUse service description version) :
    version.schemaTypes.map (·.name) = description.types.map (Name.ofText ·.name) := by
  obtain ⟨declared, derived, layout, agreeTypes, lists⟩ := agrees.types
  have builtins : ApiType.builtins.filter (·.kind.hasSchema) = [] := by decide
  have described : declared.filter (·.kind.hasSchema) = declared := by
    refine List.filter_eq_self.2 fun type member => ?_
    obtain ⟨_, -, agree⟩ := exists_of_mem_right agreeTypes member
    cases shape : type.kind with
    | enum values => rfl
    | struct attributes identified => rfl
    | _ => have kind := agree.kind; rw [shape] at kind; cases kind
  have elements : derived.filter (·.kind.hasSchema) = [] := by
    refine List.filter_eq_nil_iff.2 fun type member => ?_
    have holds := lists type member
    cases shape : type.kind with
    | list element => exact Bool.false_ne_true
    | map element => exact Bool.false_ne_true
    | _ => rw [shape] at holds; cases holds
  rw [Version.schemaTypes, layout, List.filter_append, List.filter_append, builtins, described,
    elements, List.nil_append, List.append_nil]
  exact map_eq_of_forall₂ TypeAgrees.name agreeTypes

end VersionedApi.Description

namespace VersionedApi.OpenApi

open VersionedApi.Document VersionedApi.Model

variable {conventions : Conventions} {version : Version}

/-! ## The schema of one type -/

def ownSchema (conventions : Conventions) (version : Version) (type : ApiType) :
    Draft FieldStep :=
  if type.kind.isEnum then enumSchema conventions type
  else structSchema conventions version type

/-- A type is written by one step, at the name of its schema. -/
theorem exists_steps_ownSchema (conventions : Conventions) (version : Version) (type : ApiType) :
    ∃ inner, (ownSchema conventions version type).steps =
      [.object (conventions.naming.schemaName type) inner] := by
  unfold ownSchema
  split
  · exact ⟨_, rfl⟩
  · exact ⟨_, rfl⟩

/-- The types whose schemas are written: the name of the schema of errors is taken. -/
def writtenTypes (conventions : Conventions) (version : Version) : List ApiType :=
  version.schemaTypes.filter fun type => conventions.naming.schemaName type ≠ errorSchemaName

theorem steps_typeSchema (type : ApiType) :
    (typeSchema conventions version type).steps =
      if type.kind.hasSchema ∧ conventions.naming.schemaName type ≠ errorSchemaName then
        (ownSchema conventions version type).steps
      else [] := by
  by_cases reserved : conventions.naming.schemaName type = errorSchemaName
  · cases kind : type.kind <;>
      simp [typeSchema, kind, reserved, TypeKind.hasSchema, TypeKind.isEnum, TypeKind.isStruct,
        Draft.problem, Draft.none]
  · cases kind : type.kind <;>
      simp [typeSchema, ownSchema, kind, reserved, TypeKind.hasSchema, TypeKind.isEnum,
        TypeKind.isStruct, Draft.none]

theorem steps_schemas (conventions : Conventions) (version : Version) :
    (schemas conventions version).steps =
      (writtenTypes conventions version).flatMap
        (fun type => (ownSchema conventions version type).steps) ++ errorSchema.steps := by
  rw [schemas, Draft.steps_append, Draft.steps_concat, List.flatMap_map, writtenTypes,
    Version.schemaTypes, List.filter_filter]
  congr 1
  induction version.types with
  | nil => rfl
  | cons type rest ih =>
      rw [List.flatMap_cons, ih, steps_typeSchema, List.filter_cons]
      by_cases written : type.kind.hasSchema ∧
          conventions.naming.schemaName type ≠ errorSchemaName
      · simp [written]
      · simp [written, and_comm]

/-! ## All of them -/

/-- The names of the schemas, in the order in which types first take them. -/
theorem schemaNames_eq (conventions : Conventions) (version : Version) :
    schemaNames conventions version =
      ((version.schemaTypes.map conventions.naming.schemaName).filter
        (· ≠ errorSchemaName)).eraseDups ++ [errorSchemaName] := by
  have own : ((writtenTypes conventions version).flatMap
      fun type => (ownSchema conventions version type).steps).filterMap FieldStep.key? =
        (version.schemaTypes.map conventions.naming.schemaName).filter (· ≠ errorSchemaName) := by
    rw [List.filter_map, writtenTypes, Function.comp_def]
    induction version.schemaTypes.filter _ with
    | nil => rfl
    | cons type rest ih =>
        obtain ⟨inner, steps⟩ := exists_steps_ownSchema conventions version type
        rw [List.flatMap_cons, List.filterMap_append, ih, steps, List.map_cons]
        rfl
  have last : errorSchema.steps.filterMap FieldStep.key? = [errorSchemaName] := rfl
  have unlike : errorSchemaName ∉
      (version.schemaTypes.map conventions.naming.schemaName).filter (· ≠ errorSchemaName) := by
    simp
  rw [schemaNames, keys_build, steps_schemas, List.filterMap_append, own, last,
    List.eraseDups_append]
  congr 1
  generalize (version.schemaTypes.map conventions.naming.schemaName).filter _ = names at unlike
  simp [unlike, List.removeAll, List.eraseDups_cons]

/-- The types have schemas of their own exactly if no two schemas are named alike. -/
theorem schemaNames_eq_iff :
    schemaNames conventions version =
        version.schemaTypes.map conventions.naming.schemaName ++ [errorSchemaName] ↔
      (version.schemaTypes.map conventions.naming.schemaName ++ [errorSchemaName]).Nodup := by
  rw [schemaNames_eq]
  generalize version.schemaTypes.map conventions.naming.schemaName = names
  constructor
  · intro same
    rw [← same, List.nodup_append]
    refine ⟨nodup_eraseDups _, List.nodup_singleton _, ?_⟩
    intro name member other last
    have written := (List.mem_filter.1 (List.mem_eraseDups.1 member)).2
    exact List.mem_singleton.1 last ▸ of_decide_eq_true written
  · intro distinct
    obtain ⟨distinctNames, -, apart⟩ := List.nodup_append.1 distinct
    have all : names.filter (· ≠ errorSchemaName) = names :=
      List.filter_eq_self.2 fun name member =>
        decide_eq_true (apart name member errorSchemaName List.mem_cons_self)
    rw [all, eraseDups_eq_self_iff.2 distinctNames]

/-- A schema is what the types of its name write, one after the other. -/
theorem get?_schemas {name : String} (unlike : name ≠ errorSchemaName) :
    Fields.get? (build (schemas conventions version).steps) name =
      Fields.get? (build ((version.schemaTypes.filter
        (conventions.naming.schemaName · = name)).flatMap
          fun type => (ownSchema conventions version type).steps)) name := by
  have last : errorSchema.steps.filter (·.key? == some name) = [] := by
    refine List.filter_eq_nil_iff.2 fun step member => ?_
    obtain rfl := List.mem_singleton.1 member
    simpa [FieldStep.key?] using Ne.symm unlike
  have own : ∀ types : List ApiType,
      (types.flatMap fun type => (ownSchema conventions version type).steps).filter
          (·.key? == some name) =
        (types.filter (conventions.naming.schemaName · = name)).flatMap
          fun type => (ownSchema conventions version type).steps := by
    intro types
    induction types with
    | nil => rfl
    | cons type rest ih =>
        obtain ⟨inner, steps⟩ := exists_steps_ownSchema conventions version type
        rw [List.flatMap_cons, List.filter_append, ih, List.filter_cons]
        by_cases same : conventions.naming.schemaName type = name
        · simp [same, steps, FieldStep.key?]
        · simp [same, steps, FieldStep.key?]
  have written : (writtenTypes conventions version).filter
      (conventions.naming.schemaName · = name) =
        version.schemaTypes.filter (conventions.naming.schemaName · = name) := by
    rw [writtenTypes, List.filter_filter]
    refine List.filter_congr fun type _ => ?_
    by_cases same : conventions.naming.schemaName type = name
    · simp [same, unlike]
    · simp [same]
  rw [build, get?_runFields_filter, steps_schemas, List.filter_append, last, List.append_nil, own,
    written, ← build]

/-- A type that shares the name of its schema with no other has the schema to itself. -/
theorem get?_schemas_of_single {type : ApiType} (declared : type ∈ version.schemaTypes)
    (unlike : conventions.naming.schemaName type ≠ errorSchemaName)
    (single : (version.schemaTypes.map conventions.naming.schemaName).count
      (conventions.naming.schemaName type) = 1) :
    ∃ value, build (ownSchema conventions version type).steps =
        [(conventions.naming.schemaName type, value)] ∧
      Fields.get? (build (schemas conventions version).steps)
        (conventions.naming.schemaName type) = some value := by
  have alone : version.schemaTypes.filter (conventions.naming.schemaName · =
      conventions.naming.schemaName type) = [type] := by
    rw [List.count, List.countP_map, List.countP_eq_length_filter] at single
    obtain ⟨only, same⟩ := List.length_eq_one_iff.1 single
    have kept : version.schemaTypes.filter (conventions.naming.schemaName · =
        conventions.naming.schemaName type) = [only] := by
      rw [← same]
      exact List.filter_congr fun other _ => by simp [beq_eq_decide]
    have member : type ∈ [only] := kept ▸ List.mem_filter.2 ⟨declared, by simp⟩
    rw [kept, List.mem_singleton.1 member]
  obtain ⟨inner, steps⟩ := exists_steps_ownSchema conventions version type
  have built : build (ownSchema conventions version type).steps =
      [(conventions.naming.schemaName type, .object (build inner))] := by
    rw [steps]
    rfl
  refine ⟨_, built, ?_⟩
  rw [get?_schemas unlike, alone, List.flatMap_cons, List.flatMap_nil, List.append_nil, built]
  simp [Fields.get?]

/--
The schemas of a loaded version are those of the declared types, in the order
of their declaration, and after them that of errors.  Names that are given
twice appear once, so each type has a key of its own exactly if no two schemas
are named alike.  A schema is what the types of its name write into an empty
object, one after the other, hence what a type writes alone if no other shares
its name.
-/
theorem schemas_of_declared {service : Name} {description : Description.VersionDescription}
    {version : Version} (loaded : Description.loadVersion service description = .ok version) :
    version.schemaTypes.map (·.name) = description.types.map (Name.ofText ·.name) ∧
    ∀ conventions : Conventions,
      Fields.keys (build (schemas conventions version).steps) =
        ((version.schemaTypes.map conventions.naming.schemaName).filter
          (· ≠ "Error")).eraseDups ++ ["Error"] ∧
      (Fields.keys (build (schemas conventions version).steps) =
          version.schemaTypes.map conventions.naming.schemaName ++ ["Error"] ↔
        (version.schemaTypes.map conventions.naming.schemaName ++ ["Error"]).Nodup) ∧
      (∀ name, name ≠ "Error" →
        Fields.get? (build (schemas conventions version).steps) name =
          Fields.get? (build ((version.schemaTypes.filter
            (conventions.naming.schemaName · = name)).flatMap
              fun type => (ownSchema conventions version type).steps)) name) ∧
      ∀ type ∈ version.schemaTypes, conventions.naming.schemaName type ≠ "Error" →
        (version.schemaTypes.map conventions.naming.schemaName).count
          (conventions.naming.schemaName type) = 1 →
        ∃ value, build (ownSchema conventions version type).steps =
            [(conventions.naming.schemaName type, value)] ∧
          Fields.get? (build (schemas conventions version).steps)
            (conventions.naming.schemaName type) = some value := by
  have agrees := Description.loadVersion_agrees Description.sound_inUse
    (fun _ _ => trivial) loaded
  refine ⟨agrees.names_schemaTypes, fun conventions => ?_⟩
  refine ⟨schemaNames_eq conventions version, schemaNames_eq_iff, ?_, ?_⟩
  · intro name unlike
    exact get?_schemas unlike
  · intro type declared unlike single
    exact get?_schemas_of_single declared unlike single

/-- An enum and a struct whose names differ by an underscore, and a class between them. -/
def blended : Description.VersionDescription where
  name := "v1"
  types := [
    { name := "Disk1", form := .enum, values := [{ name := "ssd" }] },
    { name := "Image", form := .identified },
    { name := "Disk_1", form := .struct, attributes := [{ name := "size", type := "Long" }] }]

theorem schemas_of_declared_blended :
    ∃ version, Description.loadVersion ⟨"clusters_mgmt"⟩ blended = .ok version ∧
      Fields.keys (build (schemas (.ofBinding .http) version).steps) =
        ["Disk1", "Image", "Error"] ∧
      ∃ type ∈ version.schemaTypes, Naming.standard.schemaName type = "Image" ∧
        ∃ value, build (ownSchema (.ofBinding .http) version type).steps = [("Image", value)] ∧
          Fields.get? (build (schemas (.ofBinding .http) version).steps) "Image" =
            some value := by
  obtain ⟨version, loaded, named⟩ := Description.exists_eq_ok_of_any
    (show (Description.loadVersion ⟨"clusters_mgmt"⟩ blended).toOption.any fun version =>
      version.schemaTypes.map Naming.standard.schemaName == ["Disk1", "Image", "Disk1"] by
      decide +kernel)
  have names : version.schemaTypes.map (Conventions.ofBinding .http).naming.schemaName =
      ["Disk1", "Image", "Disk1"] := eq_of_beq named
  obtain ⟨keys, -, -, own⟩ := (schemas_of_declared loaded).2 (.ofBinding .http)
  rw [names] at keys own
  obtain ⟨type, declared, same⟩ : ∃ type ∈ version.schemaTypes,
      (Conventions.ofBinding .http).naming.schemaName type = "Image" :=
    List.mem_map.1 (names ▸ by decide)
  have alone := own type declared (by rw [same]; decide) (by rw [same]; decide)
  rw [same] at alone
  exact ⟨version, loaded, keys.trans (by decide +kernel), type, declared, same, alone⟩

def innerKeys (fields : Fields) (key : String) : Option (List String) :=
  ((Fields.get? fields key).bind Node.asObject?).map Fields.keys

/--
An enum and a struct whose schemas are named alike get one schema between them.
It has more fields than that of the enum, so neither has a schema of its own.
-/
theorem schemas_blend :
    ∃ version, Description.loadVersion ⟨"clusters_mgmt"⟩ blended = .ok version ∧
      (∀ type ∈ version.types, Naming.standard.schemaName type ≠ "Error") ∧
      Fields.keys (build (schemas (.ofBinding .http) version).steps) ≠
        version.schemaTypes.map Naming.standard.schemaName ++ ["Error"] ∧
      ∃ type ∈ version.schemaTypes,
        Fields.get? (build (schemas (.ofBinding .http) version).steps)
            (Naming.standard.schemaName type) ≠
          Fields.get? (build (ownSchema (.ofBinding .http) version type).steps)
            (Naming.standard.schemaName type) := by
  obtain ⟨version, loaded, evaluated⟩ := Description.exists_eq_ok_of_any
    (show (Description.loadVersion ⟨"clusters_mgmt"⟩ blended).toOption.any fun version =>
      version.types.all (fun type => Naming.standard.schemaName type != "Error") &&
      Fields.keys (build (schemas (.ofBinding .http) version).steps) !=
        version.schemaTypes.map Naming.standard.schemaName ++ ["Error"] &&
      version.schemaTypes.any fun type =>
        innerKeys (build (schemas (.ofBinding .http) version).steps)
            (Naming.standard.schemaName type) !=
          innerKeys (build (ownSchema (.ofBinding .http) version type).steps)
            (Naming.standard.schemaName type) by
      decide +kernel)
  simp only [Bool.and_eq_true, List.all_eq_true, List.any_eq_true, bne_iff_ne] at evaluated
  obtain ⟨⟨free, fewer⟩, type, declared, differ⟩ := evaluated
  refine ⟨version, loaded, free, fewer, type, declared, fun same => differ ?_⟩
  rw [innerKeys, same, innerKeys]

end VersionedApi.OpenApi
