import VersionedApi.Proofs.Description.WellFormed
import VersionedApi.Proofs.Text.Casing

/-!
# Characters of spelled names

A name that some text spells holds letters, digits and underscores, whatever the
text.  Nothing in it can be read as a part of a path or of a template.
-/

namespace VersionedApi.Model

/-- No name holds a character of ASCII that is neither letter, digit nor underscore. -/
theorem Name.not_mem_snake {name : Name} (spelled : name.Spelled) {c : Char} (joint : c ≠ '_')
    (special : ¬ Text.IsPlain c) : c ∉ name.snake.toList := by
  obtain ⟨text, rfl⟩ := spelled
  rw [toList_snake_ofText]
  intro member
  rcases Text.isPlain_of_mem_snakeCase member with between | plain
  · exact joint between
  · exact special plain

/-- The names that the absolute paths of a version are made of are spelled by texts. -/
structure Version.Spelled (version : Version) : Prop where
  service : version.service.Spelled
  name : version.name.Spelled
  locators : ∀ resource ∈ version.resources, ∀ locator ∈ resource.locators, locator.name.Spelled

end VersionedApi.Model
