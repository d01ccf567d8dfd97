import VersionedApi.Model.Name

/-!
# Characters of names

Whatever text a name is made from, its snake and its Pascal case hold nothing of
ASCII but letters, digits and the underscores between the words of the former.
The case mappings of Unicode lead back to ASCII in a few places, and there only
to letters.
-/

namespace VersionedApi.Text

/-- If the character is one of ASCII, then it is a letter or a digit. -/
def IsPlain (c : Char) : Prop :=
  isAscii c → c.isAlphanum

instance : DecidablePred IsPlain := fun c =>
  inferInstanceAs (Decidable (isAscii c → c.isAlphanum))

/-! ## Case mappings -/

/-- All images of a displacement are characters beyond ASCII, or its only image is a letter. -/
def Shift.isTame (shift : Shift) : Bool :=
  (128 ≤ (shift.first : Int) + shift.distance && (shift.last : Int) + shift.distance < 0xD800) ||
  (0xE000 ≤ (shift.first : Int) + shift.distance &&
    (shift.last : Int) + shift.distance < 0x110000) ||
  (shift.first == shift.last && (Char.ofNat (shift.apply shift.first)).isAlphanum)

theorem lowercaseShifts_tame : ∀ shift ∈ lowercaseShifts, shift.isTame := by
  decide +kernel

theorem uppercaseShifts_tame : ∀ shift ∈ uppercaseShifts, shift.isTame := by
  decide +kernel

theorem uppercaseExpansions_plain :
    ∀ entry ∈ uppercaseExpansions, ∀ point ∈ entry.2,
      point.isValidChar ∧ (point < 128 → (Char.ofNat point).isAlphanum) := by
  decide

theorem toNat_ofNat_of_valid {point : Nat} (valid : point.isValidChar) :
    (Char.ofNat point).toNat = point := by
  rw [Char.ofNat, dif_pos valid]
  rfl

theorem isPlain_ofNat {point : Nat} (valid : point.isValidChar) (beyond : 128 ≤ point) :
    IsPlain (Char.ofNat point) := by
  intro ascii
  simp only [isAscii, toNat_ofNat_of_valid valid, decide_eq_true_eq] at ascii
  omega

/-- Tame displacements take code points to plain characters. -/
theorem isPlain_of_tame {shifts : List Shift} (tame : ∀ shift ∈ shifts, shift.isTame)
    {point image : Nat} (found : Shift.find? shifts point = some image) :
    IsPlain (Char.ofNat image) := by
  obtain ⟨shift, present, rfl⟩ := Option.map_eq_some_iff.1 found
  have inside : shift.run.contains point = true := by
    simpa using List.find?_some present
  obtain ⟨low, high⟩ := Run.bounds_of_contains inside
  have member := tame shift (List.mem_of_find?_eq_some present)
  change shift.first ≤ point at low
  change point ≤ shift.last at high
  simp only [Shift.isTame, Bool.or_eq_true, Bool.and_eq_true, decide_eq_true_eq,
    beq_iff_eq] at member
  rcases member with (⟨above, below⟩ | ⟨above, below⟩) | ⟨single, letter⟩
  · have bounds : 128 ≤ shift.apply point ∧ shift.apply point < 0xD800 := by
      unfold Shift.apply
      omega
    exact isPlain_ofNat (.inl bounds.2) bounds.1
  · have bounds : 0xDFFF < shift.apply point ∧ shift.apply point < 0x110000 := by
      unfold Shift.apply
      omega
    exact isPlain_ofNat (.inr bounds) (by omega)
  · have same : point = shift.first := by omega
    intro _
    rw [same]
    exact letter

theorem isAlphanum_cases :
    ∀ point < 128, (Char.ofNat point).isAlphanum →
      (Char.ofNat point).toLower.isAlphanum ∧ (Char.ofNat point).toUpper.isAlphanum := by
  decide

theorem isPlain_of_isAlphanumeric {c : Char} (alphanumeric : isAlphanumeric c = true) :
    IsPlain c := by
  intro ascii
  rwa [isAlphanumeric_of_ascii ascii] at alphanumeric

theorem isPlain_of_mem_lowercase {c d : Char} (plain : IsPlain c) (member : d ∈ lowercase c) :
    IsPlain d := by
  unfold lowercase at member
  split at member
  · next ascii =>
      obtain rfl := List.mem_singleton.1 member
      have small : c.toNat < 128 := by simpa [isAscii] using ascii
      have cases := isAlphanum_cases c.toNat small
      rw [Char.ofNat_toNat] at cases
      exact fun _ => (cases (plain ascii)).1
  · split at member
    · rcases List.mem_cons.1 member with rfl | member
      · exact fun _ => by decide
      · obtain rfl := List.mem_singleton.1 member
        exact fun ascii => absurd ascii (by decide)
    · obtain rfl := List.mem_singleton.1 member
      cases found : Shift.find? lowercaseShifts c.toNat with
      | none => exact plain
      | some image => exact isPlain_of_tame lowercaseShifts_tame found

theorem isPlain_of_mem_uppercase {c d : Char} (plain : IsPlain c) (member : d ∈ uppercase c) :
    IsPlain d := by
  unfold uppercase at member
  split at member
  · next ascii =>
      obtain rfl := List.mem_singleton.1 member
      have small : c.toNat < 128 := by simpa [isAscii] using ascii
      have cases := isAlphanum_cases c.toNat small
      rw [Char.ofNat_toNat] at cases
      exact fun _ => (cases (plain ascii)).2
  · split at member
    · next points expanded =>
        obtain ⟨point, inside, rfl⟩ := List.mem_map.1 member
        obtain ⟨before, after, split, -⟩ := List.lookup_eq_some_iff.1 expanded
        have entry : (c.toNat, points) ∈ uppercaseExpansions := by simp [split]
        obtain ⟨valid, letter⟩ := uppercaseExpansions_plain _ entry point inside
        intro ascii
        apply letter
        simpa [isAscii, toNat_ofNat_of_valid valid] using ascii
    · obtain rfl := List.mem_singleton.1 member
      cases found : Shift.find? uppercaseShifts c.toNat with
      | none => exact plain
      | some image => exact isPlain_of_tame uppercaseShifts_tame found

/-! ## Words -/

/-- The stretches between separators hold the letters and digits of a text, in order. -/
theorem flatten_segments (text : List Char) :
    (segments text).flatten = text.filter isAlphanumeric := by
  induction text with
  | nil => rfl
  | cons c rest ih =>
      rw [segments]
      by_cases alphanumeric : isAlphanumeric c = true
      · rw [if_pos alphanumeric, List.filter_cons_of_pos alphanumeric, ← ih]
        cases found : segments rest with
        | nil => exact absurd found (segments_ne_nil rest)
        | cons first others => rfl
      · rw [if_neg alphanumeric, List.filter_cons_of_neg alphanumeric, List.flatten_cons, ih]
        rfl

/-- Cutting at changes of case neither drops nor adds a character. -/
theorem flatten_cutCases {run : CaseRun} {word text : List Char} (some : text ≠ []) :
    (cutCases run word text).flatten = word.reverse ++ text := by
  fun_induction cutCases run word text with
  | case1 => exact absurd rfl some
  | case2 run word c => simp
  | case3 run word c next rest cut ih => simp [ih (List.cons_ne_nil next rest)]
  | case4 run word c next rest whole cut ih => simp [ih (List.cons_ne_nil next rest)]
  | case5 run word c next rest whole uncut ih => simp [ih (List.cons_ne_nil next rest)]

/-- The words of a text hold its letters and digits, in order. -/
theorem flatten_words (text : List Char) :
    (words text).flatten = text.filter isAlphanumeric := by
  have whole (segment : List Char) : (cutCases .fresh [] segment).flatten = segment := by
    cases segment with
    | nil => rfl
    | cons c rest => exact flatten_cutCases (List.cons_ne_nil c rest)
  rw [words, ← flatten_segments, List.flatMap_def, List.flatten_flatten, List.map_map]
  exact congrArg List.flatten ((List.map_congr_left fun segment _ => whole segment).trans
    (List.map_id' _))

/-- A word holds letters and digits of the text. -/
theorem mem_of_mem_words {text word : List Char} {c : Char} (member : word ∈ words text)
    (inside : c ∈ word) : c ∈ text ∧ isAlphanumeric c = true := by
  have among : c ∈ (words text).flatten := List.mem_flatten_of_mem member inside
  rwa [flatten_words, List.mem_filter] at among

theorem isPlain_of_mem_words {text word : List Char} {c : Char} (member : word ∈ words text)
    (inside : c ∈ word) : IsPlain c :=
  isPlain_of_isAlphanumeric (mem_of_mem_words member inside).2

/-! ## Casings -/

theorem isPlain_of_mem_lowercaseWord {word : List Char} {d : Char}
    (plain : ∀ c ∈ word, IsPlain c) (member : d ∈ lowercaseWord word) : IsPlain d := by
  fun_induction lowercaseWord word with
  | case1 => cases member
  | case2 =>
      obtain rfl := List.mem_singleton.1 member
      exact nofun
  | case3 c rest _ ih =>
      rcases List.mem_append.1 member with first | later
      · exact isPlain_of_mem_lowercase (plain c List.mem_cons_self) first
      · exact ih (fun other inside => plain other (List.mem_cons_of_mem _ inside)) later

theorem isPlain_of_mem_capitalizeWord {word : List Char} {d : Char}
    (plain : ∀ c ∈ word, IsPlain c) (member : d ∈ capitalizeWord word) : IsPlain d := by
  cases word with
  | nil => cases member
  | cons c rest =>
      rcases List.mem_append.1 member with first | later
      · exact isPlain_of_mem_uppercase (plain c List.mem_cons_self) first
      · exact isPlain_of_mem_lowercaseWord
          (fun other inside => plain other (List.mem_cons_of_mem _ inside)) later

/-- What is joined by a character holds no others than the words do. -/
theorem mem_of_mem_intercalate {joint d : Char} {pieces : List (List Char)}
    (member : d ∈ List.intercalate [joint] pieces) : d = joint ∨ ∃ piece ∈ pieces, d ∈ piece := by
  induction pieces with
  | nil => cases member
  | cons first rest ih =>
      cases rest with
      | nil => exact .inr ⟨first, List.mem_cons_self, by simpa using member⟩
      | cons next others =>
          rw [List.intercalate_cons_cons] at member
          rcases List.mem_append.1 member with early | late
          · rcases List.mem_append.1 early with inside | between
            · exact .inr ⟨first, List.mem_cons_self, inside⟩
            · exact .inl (List.mem_singleton.1 between)
          · rcases ih late with between | ⟨piece, present, inside⟩
            · exact .inl between
            · exact .inr ⟨piece, List.mem_cons_of_mem _ present, inside⟩

/-- Snake case holds letters, digits and underscores, as far as it is ASCII. -/
theorem isPlain_of_mem_snakeCase {text : List Char} {d : Char} (member : d ∈ snakeCase text) :
    d = '_' ∨ IsPlain d := by
  rcases mem_of_mem_intercalate member with between | ⟨piece, present, inside⟩
  · exact .inl between
  · obtain ⟨word, among, rfl⟩ := List.mem_map.1 present
    exact .inr (isPlain_of_mem_lowercaseWord (fun c within => isPlain_of_mem_words among within)
      inside)

/-- Pascal case holds letters and digits, as far as it is ASCII. -/
theorem isPlain_of_mem_pascalCase {text : List Char} {d : Char} (member : d ∈ pascalCase text) :
    IsPlain d := by
  obtain ⟨word, among, inside⟩ := List.mem_flatMap.1 member
  exact isPlain_of_mem_capitalizeWord (fun c within => isPlain_of_mem_words among within) inside

end VersionedApi.Text
