import VersionedApi.Model.Version

/-!
# Looking types up

A type is looked up by its name or by its kind, and the first that matches is
found.  What is found stays found when types are added behind those that are
there.
-/

namespace VersionedApi.Model.Version

variable {version before after : Version} {id : TypeId}

/-- The first type that passes a test has the least number of those that do. -/
theorem map_findIdx?_eq_some_iff {test : ApiType → Bool} :
    (version.types.findIdx? test).map TypeId.mk = some id ↔
      (∃ type, version.type? id = some type ∧ test type) ∧
      ∀ other type, version.type? other = some type → test type → id.index ≤ other.index := by
  rw [Option.map_eq_some_iff]
  constructor
  · rintro ⟨index, first, rfl⟩
    obtain ⟨bound, matched, earliest⟩ := List.findIdx?_eq_some_iff_getElem.1 first
    refine ⟨⟨_, List.getElem?_eq_getElem bound, matched⟩, fun other type found passes => ?_⟩
    obtain ⟨_, rfl⟩ := List.getElem?_eq_some_iff.1 found
    exact Nat.le_of_not_lt fun early => earliest other.index early passes
  · rintro ⟨⟨type, found, passes⟩, least⟩
    obtain ⟨bound, rfl⟩ := List.getElem?_eq_some_iff.1 found
    refine ⟨id.index, List.findIdx?_eq_some_iff_getElem.2 ⟨bound, passes, ?_⟩, rfl⟩
    intro place early matched
    have late := least ⟨place⟩ _ (List.getElem?_eq_getElem (Nat.lt_trans early bound)) matched
    exact Nat.not_le_of_lt early late

theorem findType?_eq_some_iff {name : Name} :
    version.findType? name = some id ↔
      (∃ type, version.type? id = some type ∧ type.name = name) ∧
      ∀ other type, version.type? other = some type → type.name = name →
        id.index ≤ other.index := by
  rw [findType?, map_findIdx?_eq_some_iff]
  simp only [beq_iff_eq]

theorem findKind?_eq_some_iff {kind : TypeKind} :
    version.findKind? kind = some id ↔
      (∃ type, version.type? id = some type ∧ type.kind = kind) ∧
      ∀ other type, version.type? other = some type → type.kind = kind →
        id.index ≤ other.index := by
  rw [findKind?, map_findIdx?_eq_some_iff]
  simp only [beq_iff_eq]

/-- The first type of a kind stays the first when types are added. -/
theorem findKind?_of_prefix (grown : before.types <+: after.types) {kind : TypeKind}
    (found : before.findKind? kind = some id) : after.findKind? kind = some id := by
  obtain ⟨index, first, rfl⟩ := Option.map_eq_some_iff.1 found
  exact Option.map_eq_some_iff.2 ⟨index, grown.findIdx?_eq_some first, rfl⟩

/-- A number in use keeps its type when types are added. -/
theorem type?_of_prefix (grown : before.types <+: after.types) {type : ApiType}
    (found : before.type? id = some type) : after.type? id = some type := by
  obtain ⟨bound, rfl⟩ := List.getElem?_eq_some_iff.1 found
  exact List.prefix_iff_getElem?.1 grown id.index bound

end VersionedApi.Model.Version
