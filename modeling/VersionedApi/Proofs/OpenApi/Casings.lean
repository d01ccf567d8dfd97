import Mathlib.Data.List.Nodup
import Mathlib.Data.Set.Function
import VersionedApi.OpenApi.Conventions
import VersionedApi.Proofs.Text.SmallWords

/-!
# Casings of names

A name of words that begin with a letter and have another one behind it can be
read back from each of its casings.  So a document tells the schemas of types
with such names apart.
-/

namespace VersionedApi.Model.Name

theorem ofText_eq_ofText_iff {left right : String} :
    ofText left = ofText right ↔
      Text.snakeCase left.toList = Text.snakeCase right.toList := by
  simp [ofText, String.ofList_inj]

def joined (pieces : List (List Char)) : String :=
  String.ofList (List.intercalate ['_'] pieces)

def IsLettered (name : Name) : Prop :=
  ∃ pieces, (∀ piece ∈ pieces, Text.IsLettered piece) ∧ name = ofText (joined pieces)

def casings : List (Name → String) :=
  [snake, pascal, camel]

section Lettered

variable {pieces : List (List Char)} (lettered : ∀ piece ∈ pieces, Text.IsLettered piece)
include lettered

theorem snakeCase_joined :
    Text.snakeCase (joined pieces).toList = (joined pieces).toList := by
  rw [joined, String.toList_ofList]
  exact Text.snakeCase_intercalate fun piece member => (lettered piece member).isSmallWord

theorem snake_ofText_joined : (ofText (joined pieces)).snake = joined pieces := by
  rw [ofText, snakeCase_joined lettered, String.ofList_toList]

theorem ofText_pascal_joined :
    ofText (ofText (joined pieces)).pascal = ofText (joined pieces) := by
  rw [ofText_eq_ofText_iff, pascal, snake_ofText_joined lettered, snakeCase_joined lettered, joined,
    String.toList_ofList, String.toList_ofList, Text.snakeCase_pascalCase lettered]

theorem ofText_camel_joined :
    ofText (ofText (joined pieces)).camel = ofText (joined pieces) := by
  rw [ofText_eq_ofText_iff, camel, snake_ofText_joined lettered, snakeCase_joined lettered, joined,
    String.toList_ofList, String.toList_ofList, Text.snakeCase_camelCase lettered]

theorem ofText_casing_joined :
    ∀ casing ∈ casings, ofText (casing (ofText (joined pieces))) = ofText (joined pieces) := by
  simp only [casings, List.forall_mem_cons]
  exact ⟨by rw [snake_ofText_joined lettered], ofText_pascal_joined lettered,
    ofText_camel_joined lettered, nofun⟩

end Lettered

/-- Names of lettered words are told apart by their Pascal case. -/
theorem IsLettered.pascal_inj {left right : Name} (leftLettered : left.IsLettered)
    (rightLettered : right.IsLettered) : left.pascal = right.pascal ↔ left = right := by
  refine ⟨fun same => ?_, congrArg pascal⟩
  obtain ⟨leftPieces, leftEach, rfl⟩ := leftLettered
  obtain ⟨rightPieces, rightEach, rfl⟩ := rightLettered
  rw [← ofText_pascal_joined leftEach, same, ofText_pascal_joined rightEach]

end VersionedApi.Model.Name

namespace VersionedApi.OpenApi

open VersionedApi.Model

/--
Each casing of a name of lettered words spells that name.  Types with such names
have different schemas if their names differ, so in a list of types with
different names the schema tells which type it is.
-/
theorem casings_agree :
    (∀ pieces : List (List Char), (∀ piece ∈ pieces, Text.IsLettered piece) →
      (Name.ofText (Name.joined pieces)).snake = Name.joined pieces ∧
      ∀ casing ∈ Name.casings,
        Name.ofText (casing (Name.ofText (Name.joined pieces))) =
          Name.ofText (Name.joined pieces)) ∧
    (∀ left right : ApiType, left.name.IsLettered → right.name.IsLettered →
      (Naming.standard.schemaName left = Naming.standard.schemaName right ↔
        left.name = right.name)) ∧
    ∀ types : List ApiType, (types.map (·.name)).Nodup →
      Set.InjOn Naming.standard.schemaName {type | type ∈ types ∧ type.name.IsLettered} := by
  have schemas (left right : ApiType) (leftLettered : left.name.IsLettered)
      (rightLettered : right.name.IsLettered) :
      Naming.standard.schemaName left = Naming.standard.schemaName right ↔
        left.name = right.name :=
    leftLettered.pascal_inj rightLettered
  refine ⟨fun pieces lettered => ⟨Name.snake_ofText_joined lettered,
    Name.ofText_casing_joined lettered⟩, schemas, ?_⟩
  rintro types distinct left ⟨leftMember, leftLettered⟩ right ⟨rightMember, rightLettered⟩ same
  exact List.inj_on_of_nodup_map distinct leftMember rightMember
    ((schemas left right leftLettered rightLettered).1 same)

/-- Words with digits between and behind their letters. -/
def versionedWords : List (List Char) :=
  ["v1beta".toList, "a1b".toList, "xy9".toList]

/-- Types whose names differ by where the words end, or only hold no lettered words. -/
def versionedTypes : List ApiType :=
  ["a1b_cd", "a1bcd", "a_1bcd", "x"].map fun text => ⟨Name.ofText text, "", .interface⟩

theorem casings_agree_versioned :
    (∀ piece ∈ versionedWords, Text.IsLettered piece) ∧
    (Name.ofText "v1beta_a1b_xy9").pascal = "V1betaA1bXy9" ∧
    Name.ofText "V1betaA1bXy9" = Name.ofText "v1beta_a1b_xy9" ∧
    (versionedTypes.map (·.name)).Nodup ∧
    Set.InjOn Naming.standard.schemaName
      {type | type ∈ versionedTypes ∧ type.name.IsLettered} := by
  have lettered : ∀ piece ∈ versionedWords, Text.IsLettered piece := by decide
  have distinct : (versionedTypes.map (·.name)).Nodup := by decide
  have written : (Name.ofText (Name.joined versionedWords)).pascal = "V1betaA1bXy9" := by decide
  have spelled := (casings_agree.1 versionedWords lettered).2 Name.pascal (by simp [Name.casings])
  rw [written] at spelled
  exact ⟨lettered, written, spelled, distinct, casings_agree.2.2 versionedTypes distinct⟩

end VersionedApi.OpenApi
