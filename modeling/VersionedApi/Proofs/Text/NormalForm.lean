import VersionedApi.Proofs.Text.SmallWords

/-!
# Normal form

The snake case of a text of ASCII is made of small words, so it is its own snake
case.  Main statement: a name is in this form, nothing of the text is lost in it
but separators and capitals, and it spells itself.
-/

namespace VersionedApi.Text

def IsNormal (text : List Char) : Prop :=
  ∃ pieces, (∀ piece ∈ pieces, IsSmallWord piece) ∧ text = List.intercalate ['_'] pieces

theorem IsNormal.snakeCase {text : List Char} (normal : IsNormal text) : snakeCase text = text := by
  obtain ⟨pieces, small, rfl⟩ := normal
  exact snakeCase_intercalate small

theorem IsNormal.eq_or_isSmall {text : List Char} (normal : IsNormal text) {c : Char}
    (member : c ∈ text) : c = '_' ∨ IsSmall c := by
  obtain ⟨pieces, small, rfl⟩ := normal
  exact (mem_of_mem_intercalate member).imp id fun ⟨piece, present, inside⟩ =>
    (small piece present).small c inside

/-- A cut never leaves an empty word: before the last capital of a run there is another one. -/
theorem ne_nil_of_mem_cutCases {run : CaseRun} {word text piece : List Char}
    (begun : run = .capital → word ≠ []) (member : piece ∈ cutCases run word text) :
    piece ≠ [] := by
  fun_induction cutCases run word text with
  | case1 => cases member
  | case2 run word c =>
      obtain rfl := List.mem_singleton.1 member
      simp
  | case3 run word c next rest cut ih =>
      rcases List.mem_cons.1 member with rfl | later
      · simp
      · exact ih (by rintro ⟨⟩) later
  | case4 run word c next rest whole cut ih =>
      rcases List.mem_cons.1 member with rfl | later
      · simpa using begun cut.1
      · exact ih (by rintro ⟨⟩) later
  | case5 run word c next rest whole uncut ih =>
      exact ih (fun _ => List.cons_ne_nil c word) member

theorem ne_nil_of_mem_words {text word : List Char} (member : word ∈ words text) : word ≠ [] := by
  obtain ⟨segment, -, cut⟩ := List.mem_flatMap.1 member
  exact ne_nil_of_mem_cutCases (by rintro ⟨⟩) cut

theorem isSmall_toLower {c : Char} (ascii : isAscii c = true)
    (alphanumeric : isAlphanumeric c = true) : IsSmall c.toLower := by
  rw [isAlphanumeric_of_ascii ascii] at alphanumeric
  exact of_isAscii (fun c => c.isAlphanum = true → IsSmall c.toLower) (by decide)
    ascii alphanumeric

/-- In small letters, the words of a text of ASCII are small. -/
theorem isSmallWord_of_mem_words {text word : List Char} (ascii : ∀ c ∈ text, isAscii c = true)
    (member : word ∈ words text) : IsSmallWord (lowercaseWord word) := by
  have letters (c : Char) (inside : c ∈ word) : isAscii c = true ∧ isAlphanumeric c = true := by
    obtain ⟨among, alphanumeric⟩ := mem_of_mem_words member inside
    exact ⟨ascii c among, alphanumeric⟩
  rw [lowercaseWord_of_ascii fun c inside => (letters c inside).1]
  refine ⟨by simpa using ne_nil_of_mem_words member, fun d inside => ?_⟩
  obtain ⟨c, among, rfl⟩ := List.mem_map.1 inside
  exact isSmall_toLower (letters c among).1 (letters c among).2

/-- The snake case of a text of ASCII is in normal form. -/
theorem isNormal_snakeCase {text : List Char} (ascii : ∀ c ∈ text, isAscii c = true) :
    IsNormal (snakeCase text) :=
  ⟨_, List.forall_mem_map.2 fun _ among => isSmallWord_of_mem_words ascii among, rfl⟩

/-! ## Letters and digits -/

theorem IsSmall.isAlphanum {c : Char} (small : IsSmall c) : c.isAlphanum = true := by
  rw [← isAlphanumeric_of_ascii small.isAscii]
  exact small.isAlphanumeric

/-- But for the underscores, small words hold what they held before they were joined. -/
theorem filter_intercalate {pieces : List (List Char)}
    (small : ∀ piece ∈ pieces, IsSmallWord piece) :
    (List.intercalate ['_'] pieces).filter Char.isAlphanum = pieces.flatten := by
  induction pieces with
  | nil => rfl
  | cons first rest ih =>
      obtain ⟨head, tail⟩ := List.forall_mem_cons.1 small
      have kept : first.filter Char.isAlphanum = first :=
        List.filter_eq_self.2 fun c inside => (head.small c inside).isAlphanum
      have joint : ['_'].filter Char.isAlphanum = [] := rfl
      cases rest with
      | nil => simpa using kept
      | cons next others =>
          rw [List.intercalate_cons_cons, List.filter_append, List.filter_append, kept, joint,
            ih tail, List.append_nil]
          rfl

/-- Snake case keeps the letters and digits of a text of ASCII, in order and in small letters. -/
theorem filter_snakeCase {text : List Char} (ascii : ∀ c ∈ text, isAscii c = true) :
    (snakeCase text).filter Char.isAlphanum =
      (text.filter Char.isAlphanum).map Char.toLower := by
  have small : ∀ piece ∈ (words text).map lowercaseWord, IsSmallWord piece :=
    List.forall_mem_map.2 fun _ among => isSmallWord_of_mem_words ascii among
  have lowered (word : List Char) (member : word ∈ words text) :
      lowercaseWord word = word.map Char.toLower :=
    lowercaseWord_of_ascii fun c inside => ascii c (mem_of_mem_words member inside).1
  calc
    (snakeCase text).filter Char.isAlphanum
      = ((words text).map lowercaseWord).flatten := filter_intercalate small
    _ = ((words text).map (List.map Char.toLower)).flatten := by
        rw [List.map_congr_left lowered]
    _ = (text.filter isAlphanumeric).map Char.toLower := by
        rw [← List.map_flatten, flatten_words]
    _ = (text.filter Char.isAlphanum).map Char.toLower := by
        rw [List.filter_congr fun c member => isAlphanumeric_of_ascii (ascii c member)]

end VersionedApi.Text

namespace VersionedApi.Model.Name

open VersionedApi.Text

/--
The name that a text of ASCII spells is empty or made of small words between
single underscores.  It holds the letters and digits of the text, in order and in
small letters, and it spells itself.
-/
theorem ofText_normalizes {text : String} (ascii : ∀ c ∈ text.toList, isAscii c = true) :
    IsNormal (ofText text).snake.toList ∧
    (ofText text).snake.toList.filter Char.isAlphanum =
      (text.toList.filter Char.isAlphanum).map Char.toLower ∧
    ofText (ofText text).snake = ofText text := by
  have normal := isNormal_snakeCase ascii
  rw [toList_snake_ofText]
  refine ⟨normal, filter_snakeCase ascii, ?_⟩
  rw [ofText, toList_snake_ofText, normal.snakeCase]
  rfl

theorem ofText_normalizes_mixed :
    (∀ c ∈ "--XMLHttpRequest v2Id_".toList, isAscii c = true) ∧
    (ofText "--XMLHttpRequest v2Id_").snake = "xml_http_request_v2_id" ∧
    ofText "xml_http_request_v2_id" = ofText "--XMLHttpRequest v2Id_" := by
  have ascii : ∀ c ∈ "--XMLHttpRequest v2Id_".toList, isAscii c = true := List.all_eq_true.1 rfl
  have spelled : (ofText "--XMLHttpRequest v2Id_").snake = "xml_http_request_v2_id" := by
    decide +kernel
  have again := (ofText_normalizes ascii).2.2
  rw [spelled] at again
  exact ⟨ascii, spelled, again⟩

end VersionedApi.Model.Name
