import VersionedApi.Proofs.Document.Fields
import VersionedApi.Proofs.OpenApi.Problems

/-!
# What references denote

A reference to a type is written as the lists and maps that it leads through,
one inside the other, around what describes the type at their end.  This holds
in every version, also where lists and maps come before what they hold, and a
description that is already there stays in front.
-/

namespace VersionedApi.OpenApi

open VersionedApi.Document VersionedApi.Model

/-! ## Denotations -/

def scalarFields : Primitive → Fields
  | .boolean => [("type", .text "boolean")]
  | .integer => [("type", .text "integer"), ("format", .text "int32")]
  | .long => [("type", .text "integer"), ("format", .text "int64")]
  | .float => [("type", .text "number"), ("format", .text "float")]
  | .string => [("type", .text "string")]
  | .date => [("type", .text "string"), ("format", .text "date-time")]

/-- What describes the type at the end of a chain; what dangles or has no shape is left open. -/
def leafFields (naming : Naming) : Option ApiType → Fields
  | none => []
  | some type =>
    match type.kind with
    | .primitive primitive => scalarFields primitive
    | .enum _ | .struct _ _ =>
      [("$ref", .text ("#/components/schemas/" ++ naming.schemaName type))]
    | .interface | .list _ | .map _ => []

def wrap : Wrapping → Fields → Fields
  | .list, element => [("type", .text "array"), ("items", .object element)]
  | .map, element => [("type", .text "object"), ("additionalProperties", .object element)]

def denotation (naming : Naming) (version : Version) (wrappings : List Wrapping)
    (leaf : TypeId) : Fields :=
  wrappings.foldr wrap (leafFields naming (version.type? leaf))

/-! ## References by themselves -/

variable {naming : Naming} {version : Version}

theorem build_scalar (primitive : Primitive) :
    build (scalar primitive).steps = scalarFields primitive := by
  cases primitive <;> rfl

/-- A type that is neither list nor map is described by its own fields. -/
theorem build_describe_of_plain {id : TypeId}
    (plain : ∀ type, version.type? id = some type → type.kind.element? = none)
    (written : TypeId → Draft FieldStep) :
    build (describe naming version written id).steps = leafFields naming (version.type? id) := by
  unfold describe leafFields
  cases found : version.type? id with
  | none => rfl
  | some type =>
      have holds := plain type found
      dsimp only
      cases kind : type.kind with
      | primitive primitive => exact build_scalar primitive
      | list element => rw [kind] at holds; cases holds
      | map element => rw [kind] at holds; cases holds
      | _ => rfl

/-- A list or map is described by its own fields around those of its elements. -/
theorem build_describe_of_kind {id element : TypeId} {type : ApiType} {wrapping : Wrapping}
    (found : version.type? id = some type) (kind : type.kind = wrapping.around element)
    (written : TypeId → Draft FieldStep) :
    build (describe naming version written id).steps =
      wrap wrapping (build (written element).steps) := by
  unfold describe
  simp only [found, kind]
  cases wrapping <;> rfl

theorem build_referenceWithin {id leaf : TypeId} {wrappings : List Wrapping}
    (unfolds : version.Unfolds id wrappings leaf) {depth : Nat}
    (deep : wrappings.length < depth) :
    build (referenceWithin naming version depth id).steps =
      denotation naming version wrappings leaf := by
  induction unfolds generalizing depth with
  | leaf plain =>
      cases depth with
      | zero => cases deep
      | succ depth => exact build_describe_of_plain plain _
  | inside found kind inner ih =>
      cases depth with
      | zero => cases deep
      | succ depth =>
          rw [referenceWithin_succ, build_describe_of_kind found kind,
            ih (Nat.lt_of_succ_lt_succ deep)]
          rfl

/-- In an empty object a reference writes what its type denotes. -/
theorem build_reference {id leaf : TypeId} {wrappings : List Wrapping}
    (unfolds : version.Unfolds id wrappings leaf) :
    build (reference naming version id).steps = denotation naming version wrappings leaf :=
  build_referenceWithin unfolds (Nat.lt_succ_of_le unfolds.length_le)

/-! ## References behind a description -/

theorem description_not_mem_scalarFields (primitive : Primitive) :
    "description" ∉ (scalarFields primitive).keys := by
  cases primitive <;> decide

theorem description_not_mem_leafFields (type : Option ApiType) :
    "description" ∉ (leafFields naming type).keys := by
  cases type with
  | none => exact List.not_mem_nil
  | some type =>
      unfold leafFields
      dsimp only
      cases type.kind with
      | primitive primitive => exact description_not_mem_scalarFields primitive
      | enum values => simp [Fields.keys]
      | struct attributes identified => simp [Fields.keys]
      | _ => exact List.not_mem_nil

theorem description_not_mem_wrap (wrapping : Wrapping) (element : Fields) :
    "description" ∉ (wrap wrapping element).keys := by
  cases wrapping <;> simp [wrap, Fields.keys]

/-- A reference writes no description, whether or not its chain has an end. -/
theorem description_not_mem_describe (written : TypeId → Draft FieldStep) (id : TypeId) :
    "description" ∉ Fields.keys (build (describe naming version written id).steps) := by
  by_cases plain : ∀ type, version.type? id = some type → type.kind.element? = none
  · rw [build_describe_of_plain plain]
    exact description_not_mem_leafFields _
  · push Not at plain
    obtain ⟨type, found, holder⟩ := plain
    obtain ⟨element, holds⟩ := Option.ne_none_iff_exists'.1 holder
    obtain ⟨wrapping, kind⟩ := TypeKind.exists_around holds
    rw [build_describe_of_kind found kind]
    exact description_not_mem_wrap wrapping _

theorem key?_ne_description_of_mem_reference {id : TypeId} {step : FieldStep}
    (member : step ∈ (reference naming version id).steps) : step.key? ≠ some "description" := by
  intro written
  have known : "description" ∈ Fields.keys (build (reference naming version id).steps) :=
    mem_keys_runFields.2 (.inr ⟨step, member, written⟩)
  exact description_not_mem_describe _ id known

/-- A reference keeps the documentation in front of it. -/
theorem runFields_reference {fields : Fields}
    (documented : ∀ key ∈ fields.keys, key = "description") (id : TypeId) :
    runFields (reference naming version id).steps fields =
      fields ++ build (reference naming version id).steps := by
  refine runFields_of_unwritten fun step member key known => ?_
  rw [documented key known]
  exact key?_ne_description_of_mem_reference member

/--
Where a chain of lists and maps has an end, a reference writes what the chain
denotes behind a description that may be there.  It reports the end of the chain
if this is the interface or dangles, and else nothing.
-/
theorem reference_denotes {id leaf : TypeId} {wrappings : List Wrapping}
    (unfolds : version.Unfolds id wrappings leaf) (naming : Naming) {fields : Fields}
    (start : fields = [] ∨ ∃ doc, fields = [("description", .text doc)]) :
    runFields (reference naming version id).steps fields =
        fields ++ denotation naming version wrappings leaf ∧
      (reference naming version id).problems =
        match version.type? leaf with
        | none => [.danglingType leaf]
        | some type => if type.kind = .interface then [.shapelessType type.name] else [] := by
  have documented : ∀ key ∈ fields.keys, key = "description" := by
    rcases start with rfl | ⟨doc, rfl⟩
    · exact nofun
    · simp [Fields.keys]
  constructor
  · rw [runFields_reference documented, build_reference unfolds]
  · exact problems_reference_of_unfolds naming unfolds

/-- Lists and maps before what they hold, of which the last dangles, and a list of itself. -/
def inverted : Version where
  service := ⟨"clusters_mgmt"⟩
  name := ⟨"v1"⟩
  doc := ""
  types := ApiType.builtins ++ [
    ⟨⟨"matrix"⟩, "", .list ⟨8⟩⟩, ⟨⟨"index"⟩, "", .map ⟨9⟩⟩, ⟨⟨"lost"⟩, "", .list ⟨40⟩⟩,
    ⟨⟨"loop"⟩, "", .list ⟨10⟩⟩]
  resources := []
  root := none

theorem reference_denotes_inverted :
    inverted.Unfolds ⟨7⟩ [.list, .map, .list] ⟨40⟩ ∧
    runFields (reference .standard inverted ⟨7⟩).steps [("description", .text "Rows.")] =
      [("description", .text "Rows."), ("type", .text "array"),
        ("items", .object [("type", .text "object"),
          ("additionalProperties", .object [("type", .text "array"), ("items", .object [])])])] ∧
    (reference .standard inverted ⟨7⟩).problems = [.danglingType ⟨40⟩] := by
  have unfolds : inverted.Unfolds ⟨7⟩ [.list, .map, .list] ⟨40⟩ :=
    .inside rfl rfl (.inside rfl rfl (.inside rfl rfl (.leaf nofun)))
  exact ⟨unfolds, reference_denotes unfolds .standard (.inr ⟨"Rows.", rfl⟩)⟩

end VersionedApi.OpenApi
