import VersionedApi.Model.Paths
import VersionedApi.Proofs.Model.Spelling

/-!
# Chains that spell one absolute path

An absolute path can be read back: no name holds a slash, so the segments can
be told apart, and no name holds a brace, so a segment tells whether it is a
variable.  Main statement: two chains spell the same absolute path only if they
have the same names and the same variables in the same places.
-/

namespace VersionedApi.Model.Version

/-- Two locators are spelled alike: docs and targets do not show in a path. -/
structure SpelledAlike (left right : Locator) : Prop where
  name : left.name = right.name
  isVariable : left.isVariable = right.isVariable

/-! ## Segments -/

theorem slash_not_mem_segment {locator : Locator} (spelled : locator.name.Spelled) :
    '/' ∉ (segment locator).toList := by
  have plain : '/' ∉ locator.name.snake.toList :=
    Name.not_mem_snake spelled (by decide) (by decide)
  unfold segment
  split
  · simpa using plain
  · exact plain

/-- A variable is told from a fixed segment by its brace, whatever the names are. -/
theorem segment_ne_of_isVariable {left right : Locator} (variableLeft : left.isVariable = true)
    (fixedRight : right.isVariable = false) (spelled : right.name.Spelled) :
    segment left ≠ segment right := by
  intro same
  have plain : '\x7b' ∉ right.name.snake.toList :=
    Name.not_mem_snake spelled (by decide) (by decide)
  rw [segment, if_pos variableLeft, segment, fixedRight, if_neg Bool.false_ne_true] at same
  rw [← same] at plain
  simp at plain

/-- A segment tells the name and whether it is a variable. -/
theorem segment_eq_iff {left right : Locator} (spelledLeft : left.name.Spelled)
    (spelledRight : right.name.Spelled) :
    segment left = segment right ↔ SpelledAlike left right := by
  constructor
  · intro same
    cases variableLeft : left.isVariable with
    | true =>
        cases variableRight : right.isVariable with
        | true =>
            simp only [segment, variableLeft, variableRight, if_true, String.append_left_inj,
              String.append_right_inj] at same
            exact ⟨congrArg Name.mk same, variableLeft.trans variableRight.symm⟩
        | false =>
            exact absurd same (segment_ne_of_isVariable variableLeft variableRight spelledRight)
    | false =>
        cases variableRight : right.isVariable with
        | true =>
            exact absurd same.symm
              (segment_ne_of_isVariable variableRight variableLeft spelledLeft)
        | false =>
            simp only [segment, variableLeft, variableRight, Bool.false_eq_true, if_false] at same
            exact ⟨congrArg Name.mk same, variableLeft.trans variableRight.symm⟩
  · rintro ⟨name, isVariable⟩
    rw [segment, segment, name, isVariable]

/-- Chains have the same segments exactly if they are spelled alike in each place. -/
theorem map_segment_eq_iff {left right : Path}
    (spelledLeft : ∀ locator ∈ left, locator.name.Spelled)
    (spelledRight : ∀ locator ∈ right, locator.name.Spelled) :
    left.map segment = right.map segment ↔ List.Forall₂ SpelledAlike left right := by
  induction left generalizing right with
  | nil => simp
  | cons first left ih =>
      cases right with
      | nil => simp
      | cons second right =>
          obtain ⟨spelledFirst, spelledLeft⟩ := List.forall_mem_cons.1 spelledLeft
          obtain ⟨spelledSecond, spelledRight⟩ := List.forall_mem_cons.1 spelledRight
          rw [List.map_cons, List.map_cons, List.cons.injEq, List.forall₂_cons,
            segment_eq_iff spelledFirst spelledSecond, ih spelledLeft spelledRight]

/-! ## Joined segments -/

/-- Texts without slashes can be read back from what slashes join. -/
theorem intercalate_slash_injective {left right : List (List Char)} (someLeft : left ≠ [])
    (someRight : right ≠ []) (plainLeft : ∀ text ∈ left, '/' ∉ text)
    (plainRight : ∀ text ∈ right, '/' ∉ text)
    (same : List.intercalate ['/'] left = List.intercalate ['/'] right) : left = right := by
  rw [← List.splitOn_intercalate '/' plainLeft someLeft, same,
    List.splitOn_intercalate '/' plainRight someRight]

/-- The segments of a chain can be read back from its absolute path. -/
theorem absolutePath_eq_iff_map_segment {version : Version} {left right : Path}
    (someLeft : left ≠ []) (someRight : right ≠ [])
    (spelledLeft : ∀ locator ∈ left, locator.name.Spelled)
    (spelledRight : ∀ locator ∈ right, locator.name.Spelled) :
    version.absolutePath left = version.absolutePath right ↔
      left.map segment = right.map segment := by
  have plain {path : Path} (spelled : ∀ locator ∈ path, locator.name.Spelled) :
      ∀ text ∈ (path.map segment).map String.toList, '/' ∉ text := by
    simpa using fun locator member => slash_not_mem_segment (spelled locator member)
  rw [absolutePath, absolutePath, String.append_right_inj]
  constructor
  · intro same
    have joined := congrArg String.toList same
    rw [String.toList_intercalate, String.toList_intercalate] at joined
    have texts := intercalate_slash_injective (by simpa using someLeft) (by simpa using someRight)
      (plain spelledLeft) (plain spelledRight) joined
    exact List.map_injective_iff.2 (fun _ _ => String.toList_inj.1) texts
  · exact congrArg _

/-! ## Absolute paths -/

/--
Two chains spell the same absolute path exactly if they are equally long and
have the same name and the same kind of locator in each place, whatever texts
the names were made from.
-/
theorem absolutePath_eq_iff (version : Version) {left right : Path} (someLeft : left ≠ [])
    (someRight : right ≠ []) (spelledLeft : ∀ locator ∈ left, locator.name.Spelled)
    (spelledRight : ∀ locator ∈ right, locator.name.Spelled) :
    version.absolutePath left = version.absolutePath right ↔
      List.Forall₂ SpelledAlike left right := by
  rw [absolutePath_eq_iff_map_segment someLeft someRight spelledLeft spelledRight]
  exact map_segment_eq_iff spelledLeft spelledRight

/-- A chain whose names are made from braces and slashes, or from nothing. -/
def vanishing : Path :=
  [⟨.ofText "/Clusters\x7b\x7d", "", false, ⟨1⟩⟩, ⟨.ofText "\x7bcluster\x7d", "", true, ⟨2⟩⟩,
    ⟨.ofText "", "", false, ⟨3⟩⟩]

/-- The same names made from other texts, and other targets. -/
def vanishingAgain : Path :=
  [⟨.ofText "clusters", "All of them.", false, ⟨7⟩⟩, ⟨.ofText "Cluster", "", true, ⟨7⟩⟩,
    ⟨.ofText "..", "", false, ⟨7⟩⟩]

/-- A fixed segment where the others have a variable, made from the text of its placeholder. -/
def lookalike : Path :=
  [⟨.ofText "clusters", "", false, ⟨1⟩⟩, ⟨.ofText "\x7bcluster_id\x7d", "", false, ⟨2⟩⟩,
    ⟨.ofText "", "", false, ⟨3⟩⟩]

theorem absolutePath_eq_iff_vanishing :
    let version := Version.empty (.ofText "clusters_mgmt") (.ofText "v1")
    (vanishing ≠ [] ∧ vanishingAgain ≠ [] ∧ lookalike ≠ []) ∧
    (∀ locator ∈ vanishing ++ vanishingAgain ++ lookalike, locator.name.Spelled) ∧
    version.absolutePath vanishing = version.absolutePath vanishingAgain ∧
    version.absolutePath vanishing ≠ version.absolutePath lookalike := by
  have spelled : ∀ locator ∈ vanishing ++ vanishingAgain ++ lookalike, locator.name.Spelled := by
    simp only [vanishing, vanishingAgain, lookalike, List.cons_append, List.nil_append,
      List.forall_mem_cons, List.not_mem_nil, IsEmpty.forall_iff, implies_true, and_true]
    exact ⟨⟨_, rfl⟩, ⟨_, rfl⟩, ⟨_, rfl⟩, ⟨_, rfl⟩, ⟨_, rfl⟩, ⟨_, rfl⟩, ⟨_, rfl⟩, ⟨_, rfl⟩, ⟨_, rfl⟩⟩
  have someFirst : vanishing ≠ [] := nofun
  have someAgain : vanishingAgain ≠ [] := nofun
  have someLookalike : lookalike ≠ [] := nofun
  obtain ⟨both, spelledLookalike⟩ := List.forall_mem_append.1 spelled
  obtain ⟨spelledFirst, spelledAgain⟩ := List.forall_mem_append.1 both
  refine ⟨⟨someFirst, someAgain, someLookalike⟩, spelled, ?_, ?_⟩
  · refine (absolutePath_eq_iff _ someFirst someAgain spelledFirst spelledAgain).2 ?_
    exact .cons ⟨by decide +kernel, rfl⟩ (.cons ⟨by decide +kernel, rfl⟩
      (.cons ⟨by decide +kernel, rfl⟩ .nil))
  · intro same
    have alike := (absolutePath_eq_iff _ someFirst someLookalike spelledFirst
      spelledLookalike).1 same
    obtain ⟨-, later⟩ := List.forall₂_cons.1 alike
    cases (List.forall₂_cons.1 later).1.isVariable

end VersionedApi.Model.Version
