import Mathlib.Data.List.Basic
import VersionedApi.Proofs.Text.Casing

/-!
# Words of small letters

A word that holds small letters and digits is not cut, and small words can be
read back from what underscores join.  If each begins with a letter and has
another one behind it, they can be read back from their capitalized forms put
together as well: the capital that begins a word follows a small letter.
-/

namespace VersionedApi.Text

/-! ## Characters -/

/-- What holds of the first 128 characters holds of every character of ASCII. -/
theorem of_isAscii (property : Char → Prop) (all : ∀ point < 128, property (Char.ofNat point))
    {c : Char} (ascii : isAscii c = true) : property c := by
  have bound : c.toNat < 128 := by simpa [isAscii] using ascii
  exact Char.ofNat_toNat c ▸ all c.toNat bound

def IsSmall (c : Char) : Prop :=
  c.isLower ∨ c.isDigit

instance : DecidablePred IsSmall := fun c =>
  inferInstanceAs (Decidable (c.isLower ∨ c.isDigit))

namespace IsSmall

variable {c : Char}

theorem isAscii (small : IsSmall c) : isAscii c = true := by
  have point : c.toNat ≤ 122 := by
    rcases small with lower | digit
    · exact UInt32.le_iff_toNat_le.1 (of_decide_eq_true (Bool.and_eq_true_iff.1 lower).2)
    · exact Nat.le_trans (UInt32.le_iff_toNat_le.1
        (of_decide_eq_true (Bool.and_eq_true_iff.1 digit).2)) (by decide)
  simpa [Text.isAscii] using Nat.lt_of_le_of_lt point (by decide)

theorem isAlphanumeric (small : IsSmall c) : isAlphanumeric c = true := by
  rw [isAlphanumeric_of_ascii small.isAscii]
  exact of_isAscii (fun c => IsSmall c → c.isAlphanum) (by decide) small.isAscii small

theorem isUppercase (small : IsSmall c) : isUppercase c = false := by
  rw [isUppercase_of_ascii small.isAscii]
  exact of_isAscii (fun c => IsSmall c → c.isUpper = false) (by decide)
    small.isAscii small

theorem toLower (small : IsSmall c) : c.toLower = c :=
  of_isAscii (fun c => IsSmall c → c.toLower = c) (by decide) small.isAscii small

end IsSmall

/-! ## Cutting at separators -/

theorem segments_of_alphanumeric {text : List Char}
    (alphanumeric : ∀ c ∈ text, isAlphanumeric c = true) : segments text = [text] := by
  induction text with
  | nil => rfl
  | cons c rest ih =>
      obtain ⟨first, later⟩ := List.forall_mem_cons.1 alphanumeric
      rw [segments, if_pos first, ih later]

/-- What stands before a separator is the first stretch. -/
theorem segments_append_cons {text rest : List Char} {separator : Char}
    (alphanumeric : ∀ c ∈ text, isAlphanumeric c = true)
    (separates : isAlphanumeric separator = false) :
    segments (text ++ separator :: rest) = text :: segments rest := by
  induction text with
  | nil => rw [List.nil_append, segments, if_neg (by simp [separates])]
  | cons c text ih =>
      obtain ⟨first, later⟩ := List.forall_mem_cons.1 alphanumeric
      rw [List.cons_append, segments, if_pos first, ih later]

theorem segments_intercalate {pieces : List (List Char)} (some : pieces ≠ [])
    (alphanumeric : ∀ piece ∈ pieces, ∀ c ∈ piece, isAlphanumeric c = true) :
    segments (List.intercalate ['_'] pieces) = pieces := by
  induction pieces with
  | nil => exact absurd rfl some
  | cons first rest ih =>
      obtain ⟨head, tail⟩ := List.forall_mem_cons.1 alphanumeric
      cases rest with
      | nil => simpa using segments_of_alphanumeric head
      | cons next others =>
          rw [List.intercalate_cons_cons, List.append_assoc, List.singleton_append,
            segments_append_cons head (by decide), ih (List.cons_ne_nil next others) tail]

/-! ## Cutting at changes of case -/

/--
A stretch without capitals is not cut.  A capital behind it begins a new word if
the last letter before it is small.
-/
theorem cutCases_append {run : CaseRun} {word text tail : List Char} (some : text ≠ [])
    (small : ∀ c ∈ text, isUppercase c = false)
    (ends : ∀ c ∈ tail.head?, isUppercase c = true ∧ text.foldl CaseRun.after run = .small) :
    cutCases run word (text ++ tail) = (word.reverse ++ text) :: cutCases .fresh [] tail := by
  induction text generalizing run word with
  | nil => exact absurd rfl some
  | cons c text ih =>
      obtain ⟨first, later⟩ := List.forall_mem_cons.1 small
      cases text with
      | nil =>
          cases tail with
          | nil => simp [cutCases]
          | cons capital rest =>
              obtain ⟨begins, last⟩ := ends capital rfl
              rw [List.singleton_append, cutCases, if_pos ⟨last, begins⟩]
              simp
      | cons next others =>
          have inside : isUppercase next = false := later next List.mem_cons_self
          rw [List.cons_append, List.cons_append, cutCases, if_neg (by simp [inside]),
            if_neg (by simp [first]), ← List.cons_append,
            ih (List.cons_ne_nil next others) later ends]
          simp

/-- A letter that is small decides the case of what follows up to the next capital. -/
theorem foldl_after_eq_small {run : CaseRun} {text : List Char}
    (small : ∀ c ∈ text, isUppercase c = false)
    (letter : run = .small ∨ ∃ c ∈ text, isLowercase c = true) :
    text.foldl CaseRun.after run = .small := by
  induction text generalizing run with
  | nil => simpa using letter
  | cons c text ih =>
      obtain ⟨first, later⟩ := List.forall_mem_cons.1 small
      rw [List.foldl_cons]
      refine ih later ?_
      by_cases lower : isLowercase c = true
      · exact .inl (by simp [CaseRun.after, lower])
      · rw [CaseRun.after, if_neg lower, if_neg (by simp [first])]
        simpa [lower] using letter

/-! ## Small words between underscores -/

structure IsSmallWord (word : List Char) : Prop where
  some : word ≠ []
  small : ∀ c ∈ word, IsSmall c

/-- On ASCII a word is put into small letters one by one. -/
theorem lowercaseWord_of_ascii {word : List Char} (ascii : ∀ c ∈ word, isAscii c = true) :
    lowercaseWord word = word.map Char.toLower := by
  induction word with
  | nil => rfl
  | cons c rest ih =>
      obtain ⟨first, later⟩ := List.forall_mem_cons.1 ascii
      have other : c ≠ 'Σ' := by
        rintro rfl
        exact absurd first (by decide)
      rw [lowercaseWord, if_neg (by simp [other]), lowercase_of_ascii first, ih later]
      rfl

theorem lowercaseWord_of_small {word : List Char} (small : ∀ c ∈ word, IsSmall c) :
    lowercaseWord word = word :=
  calc
    lowercaseWord word = word.map Char.toLower :=
      lowercaseWord_of_ascii fun c inside => (small c inside).isAscii
    _ = word := (List.map_congr_left fun c inside => (small c inside).toLower).trans
      (List.map_id' word)

variable {pieces : List (List Char)}

/-- Small words can be read back from what underscores join. -/
theorem words_intercalate (small : ∀ piece ∈ pieces, IsSmallWord piece) :
    words (List.intercalate ['_'] pieces) = pieces := by
  cases pieces with
  | nil => rfl
  | cons first rest =>
      rw [words, segments_intercalate (List.cons_ne_nil first rest) fun piece member c inside =>
        ((small piece member).small c inside).isAlphanumeric]
      -- Each stretch is one word.
      have whole (piece : List Char) (member : piece ∈ first :: rest) :
          cutCases .fresh [] piece = [piece] := by
        have uncut : cutCases .fresh [] (piece ++ []) = piece :: cutCases .fresh [] [] :=
          cutCases_append (small piece member).some
            (fun c inside => ((small piece member).small c inside).isUppercase) (by simp)
        rwa [List.append_nil, cutCases] at uncut
      rw [List.flatMap_congr whole]
      simp

/-- Small words joined by underscores are in snake case. -/
theorem snakeCase_intercalate (small : ∀ piece ∈ pieces, IsSmallWord piece) :
    snakeCase (List.intercalate ['_'] pieces) = List.intercalate ['_'] pieces := by
  have kept : pieces.map lowercaseWord = pieces :=
    (List.map_congr_left fun piece member =>
      lowercaseWord_of_small (small piece member).small).trans (List.map_id' pieces)
  rw [snakeCase, words_intercalate small, kept]

/-! ## Capitalized words -/

/-- A word of small letters and digits that begins with a letter and has another one. -/
structure IsLettered (word : List Char) : Prop where
  small : ∀ c ∈ word, IsSmall c
  letters : ∃ first rest, word = first :: rest ∧ first.isLower ∧ ∃ c ∈ rest, c.isLower

instance : DecidablePred IsLettered := fun word =>
  decidable_of_iff (word.all (IsSmall ·) ∧ word.head?.any Char.isLower ∧
      word.tail.any Char.isLower) <| by
    simp only [List.all_eq_true, decide_eq_true_eq, Option.any_eq_true, List.any_eq_true]
    constructor
    · rintro ⟨small, ⟨first, atHead, lower⟩, another⟩
      exact ⟨small, first, word.tail, List.eq_cons_of_mem_head? atHead, lower, another⟩
    · rintro ⟨small, first, rest, rfl, lower, another⟩
      exact ⟨small, ⟨first, rfl, lower⟩, another⟩

theorem IsLettered.isSmallWord {word : List Char} (lettered : IsLettered word) :
    IsSmallWord word where
  small := lettered.small
  some := by
    obtain ⟨first, rest, rfl, -⟩ := lettered.letters
    exact List.cons_ne_nil first rest

structure IsCapitalOf (capital c : Char) : Prop where
  isAscii : isAscii capital = true
  uppercase : uppercase c = [capital]
  toLower : capital.toLower = c
  isUppercase : isUppercase capital = true
  isLowercase : isLowercase capital = false
  isAlphanumeric : isAlphanumeric capital = true

theorem isCapitalOf_toUpper {c : Char} (lower : c.isLower = true) :
    IsCapitalOf c.toUpper c := by
  have ascii := IsSmall.isAscii (.inl lower)
  have facts := of_isAscii
    (fun c => c.isLower = true → isAscii c.toUpper = true ∧
      uppercase c = [c.toUpper] ∧ c.toUpper.toLower = c ∧ isUppercase c.toUpper = true ∧
      isLowercase c.toUpper = false ∧ isAlphanumeric c.toUpper = true)
    (by decide) ascii lower
  obtain ⟨capital, upper, lowered, isUpper, notLower, alphanumeric⟩ := facts
  exact ⟨capital, upper, lowered, isUpper, notLower, alphanumeric⟩

/-- A lettered word is capitalized at its first letter, and there is a small letter behind it. -/
theorem IsLettered.exists_capitalizeWord {word : List Char} (lettered : IsLettered word) :
    ∃ capital first rest, IsCapitalOf capital first ∧ word = first :: rest ∧
      capitalizeWord word = capital :: rest ∧ (∀ c ∈ rest, IsSmall c) ∧
      ∃ c ∈ rest, isLowercase c = true := by
  obtain ⟨first, rest, rfl, lower, c, inside, letter⟩ := lettered.letters
  have later := (List.forall_mem_cons.1 lettered.small).2
  have capital := isCapitalOf_toUpper lower
  refine ⟨_, first, rest, capital, rfl, ?_, later, c, inside, ?_⟩
  · rw [capitalizeWord, capital.uppercase, lowercaseWord_of_small later]
    rfl
  · rwa [isLowercase_of_ascii (later c inside).isAscii]

theorem lowercaseWord_capitalizeWord {word : List Char} (lettered : IsLettered word) :
    lowercaseWord (capitalizeWord word) = word := by
  obtain ⟨capital, first, rest, isCapital, rfl, capitalized, later, -⟩ :=
    lettered.exists_capitalizeWord
  have ascii : ∀ c ∈ capital :: rest, isAscii c = true :=
    List.forall_mem_cons.2 ⟨isCapital.isAscii, fun c inside => (later c inside).isAscii⟩
  have kept := lowercaseWord_of_small later
  rw [lowercaseWord_of_ascii fun c inside => (later c inside).isAscii] at kept
  rw [capitalized, lowercaseWord_of_ascii ascii, List.map_cons, isCapital.toLower, kept]

/-- Capitalized words that are put together hold no separator. -/
theorem isAlphanumeric_capitalized (lettered : ∀ piece ∈ pieces, IsLettered piece) :
    ∀ c ∈ pieces.flatMap capitalizeWord, isAlphanumeric c = true := by
  intro c member
  obtain ⟨piece, among, inside⟩ := List.mem_flatMap.1 member
  obtain ⟨capital, first, rest, isCapital, -, capitalized, later, -⟩ :=
    (lettered piece among).exists_capitalizeWord
  rw [capitalized] at inside
  rcases List.mem_cons.1 inside with rfl | behind
  · exact isCapital.isAlphanumeric
  · exact (later c behind).isAlphanumeric

/-- Capitalized words that are put together begin with a capital. -/
theorem isUppercase_head_capitalized (lettered : ∀ piece ∈ pieces, IsLettered piece) :
    ∀ c ∈ (pieces.flatMap capitalizeWord).head?, isUppercase c = true := by
  cases pieces with
  | nil => simp
  | cons first rest =>
      obtain ⟨capital, _, tail, isCapital, -, capitalized, -⟩ :=
        (lettered first List.mem_cons_self).exists_capitalizeWord
      rw [List.flatMap_cons, capitalized]
      rintro _ ⟨⟩
      exact isCapital.isUppercase

/-- Capitalized words that are put together are cut where one of them begins. -/
theorem cutCases_capitalized (lettered : ∀ piece ∈ pieces, IsLettered piece) :
    cutCases .fresh [] (pieces.flatMap capitalizeWord) = pieces.map capitalizeWord := by
  induction pieces with
  | nil => rfl
  | cons piece rest ih =>
      obtain ⟨first, later⟩ := List.forall_mem_cons.1 lettered
      obtain ⟨capital, c, tail, isCapital, -, capitalized, small, letter⟩ :=
        first.exists_capitalizeWord
      have head := isUppercase_head_capitalized later
      have some : tail ≠ [] := by
        rintro rfl
        obtain ⟨_, impossible, -⟩ := letter
        cases impossible
      have uncut : ∀ c ∈ tail, isUppercase c = false := fun c inside => (small c inside).isUppercase
      -- The capital itself is followed by a small letter or a digit.
      have begins (others : List Char) : cutCases .fresh [] (capital :: tail ++ others) =
          cutCases .capital [capital] (tail ++ others) := by
        cases tail with
        | nil => exact absurd rfl some
        | cons next more =>
            rw [List.cons_append, List.cons_append, cutCases,
              if_neg (by simp [uncut next List.mem_cons_self]), if_neg (by simp)]
            simp [CaseRun.after, isCapital.isLowercase, isCapital.isUppercase]
      rw [List.flatMap_cons, List.map_cons, capitalized, begins,
        cutCases_append some uncut fun c atHead =>
          ⟨head c atHead, foldl_after_eq_small uncut (.inr letter)⟩, ih later]
      rfl

/-- Capitalized words can be read back from the text that they make together. -/
theorem words_capitalized (lettered : ∀ piece ∈ pieces, IsLettered piece) :
    words (pieces.flatMap capitalizeWord) = pieces.map capitalizeWord := by
  rw [words, segments_of_alphanumeric (isAlphanumeric_capitalized lettered),
    List.flatMap_singleton, cutCases_capitalized lettered]

/-- The same holds if the first word is not capitalized. -/
theorem words_append_capitalized {first : List Char} (small : IsLettered first)
    (lettered : ∀ piece ∈ pieces, IsLettered piece) :
    words (first ++ pieces.flatMap capitalizeWord) = first :: pieces.map capitalizeWord := by
  have alphanumeric : ∀ c ∈ first ++ pieces.flatMap capitalizeWord, isAlphanumeric c = true :=
    List.forall_mem_append.2 ⟨fun c inside => (small.small c inside).isAlphanumeric,
      isAlphanumeric_capitalized lettered⟩
  have uncut : ∀ c ∈ first, isUppercase c = false := fun c inside =>
    (small.small c inside).isUppercase
  obtain ⟨lead, rest, rfl, lower, -⟩ := small.letters
  have letter : ∃ c ∈ lead :: rest, isLowercase c = true :=
    ⟨lead, List.mem_cons_self, by rwa [isLowercase_of_ascii (IsSmall.isAscii (.inl lower))]⟩
  rw [words, segments_of_alphanumeric alphanumeric, List.flatMap_singleton,
    cutCases_append (List.cons_ne_nil lead rest) uncut fun c atHead =>
      ⟨isUppercase_head_capitalized lettered c atHead, foldl_after_eq_small uncut (.inr letter)⟩,
    cutCases_capitalized lettered]
  rfl

/-! ## Casings of lettered words -/

section Casings

variable (lettered : ∀ piece ∈ pieces, IsLettered piece)
include lettered

theorem map_lowercaseWord_capitalized :
    (pieces.map capitalizeWord).map lowercaseWord = pieces := by
  rw [List.map_map]
  exact (List.map_congr_left fun piece member =>
    lowercaseWord_capitalizeWord (lettered piece member)).trans (List.map_id' pieces)

theorem pascalCase_intercalate :
    pascalCase (List.intercalate ['_'] pieces) = pieces.flatMap capitalizeWord := by
  rw [pascalCase, words_intercalate fun piece member => (lettered piece member).isSmallWord]

/-- Pascal case leads back to the words. -/
theorem snakeCase_pascalCase :
    snakeCase (pascalCase (List.intercalate ['_'] pieces)) = List.intercalate ['_'] pieces := by
  rw [pascalCase_intercalate lettered, snakeCase, words_capitalized lettered,
    map_lowercaseWord_capitalized lettered]

/-- Camel case leads back to the words. -/
theorem snakeCase_camelCase :
    snakeCase (camelCase (List.intercalate ['_'] pieces)) = List.intercalate ['_'] pieces := by
  have small := words_intercalate fun piece member => (lettered piece member).isSmallWord
  cases pieces with
  | nil => rfl
  | cons first rest =>
      obtain ⟨head, tail⟩ := List.forall_mem_cons.1 lettered
      have kept := lowercaseWord_of_small head.small
      rw [camelCase, small]
      dsimp only
      rw [kept, snakeCase, words_append_capitalized head tail, List.map_cons, kept,
        map_lowercaseWord_capitalized tail]

end Casings

end VersionedApi.Text
