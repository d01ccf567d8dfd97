import VersionedApi.Proofs.Files.Ways

/-!
# Paths that are refused

A path is refused for what it is made of: a zero character, no character at all
or too many octets.  Going on from a path only adds to its end, so where the
longer path is accepted the shorter one is too.
-/

namespace VersionedApi.Files

namespace PathText

variable {path next : String} {names : List String} {c : Char}

/-- Going on from a path by a name adds to its end. -/
theorem exists_push_eq_append (given : path ≠ "") (whole : '/' ∉ next.toList) :
    ∃ rest, push path next = path ++ rest := by
  have nonempty : path.isEmpty = false := by simpa using given
  rw [push, isAbsolute_of_isWhole whole, nonempty]
  split
  · next impossible => simp at impossible
  · split
    · exact ⟨next, rfl⟩
    · exact ⟨"/" ++ next, String.append_assoc ..⟩

theorem exists_foldl_push_eq_append (given : path ≠ "")
    (whole : ∀ name ∈ names, '/' ∉ name.toList) :
    ∃ rest, names.foldl push path = path ++ rest := by
  induction names generalizing path with
  | nil => exact ⟨"", String.append_empty.symm⟩
  | cons name others ih =>
      have first := whole name List.mem_cons_self
      obtain ⟨early, begun⟩ := exists_push_eq_append given first
      obtain ⟨late, rest⟩ := ih (push_ne_empty given first) fun other member =>
        whole other (List.mem_cons_of_mem _ member)
      exact ⟨early ++ late, by rw [List.foldl_cons, rest, begun, String.append_assoc]⟩

theorem foldl_push_ne_empty (given : path ≠ "") (whole : ∀ name ∈ names, '/' ∉ name.toList) :
    names.foldl push path ≠ "" := by
  obtain ⟨rest, begun⟩ := exists_foldl_push_eq_append given whole
  rw [begun]
  simp [given]

/-- The characters of a longer path are those of its beginning, of the names and slashes. -/
theorem mem_push (member : c ∈ (push path next).toList) :
    c ∈ path.toList ∨ c = '/' ∨ c ∈ next.toList := by
  unfold push at member
  split at member
  · exact .inr (.inr member)
  · split at member
    · exact (List.mem_append.1 (String.toList_append ▸ member)).imp_right .inr
    · rw [String.toList_append, String.toList_append, show "/".toList = ['/'] by decide +kernel,
        List.append_assoc] at member
      simpa using member

theorem mem_foldl_push (member : c ∈ (names.foldl push path).toList) :
    c ∈ path.toList ∨ c = '/' ∨ ∃ name ∈ names, c ∈ name.toList := by
  induction names generalizing path with
  | nil => exact .inl member
  | cons name others ih =>
      rcases ih member with begun | slash | ⟨other, among, inside⟩
      · rcases mem_push begun with early | slash | inside
        · exact .inl early
        · exact .inr (.inl slash)
        · exact .inr (.inr ⟨name, List.mem_cons_self, inside⟩)
      · exact .inr (.inl slash)
      · exact .inr (.inr ⟨other, List.mem_cons_of_mem _ among, inside⟩)

/-! ## Ends of paths -/

theorem dropTrailing_suffix (path : List Char) : dropTrailing path <:+ path := by
  fun_induction dropTrailing path with
  | case1 => exact List.suffix_refl _
  | case2 rest _ ih => exact ih.trans (List.suffix_cons _ _)
  | case3 => exact List.suffix_cons _ _
  | case4 rest _ ih => exact ih.trans ((List.suffix_cons _ _).trans (List.suffix_cons _ _))
  | case5 => exact List.suffix_refl _

theorem dropTrailing_ne_nil {path : List Char} (given : path ≠ []) : dropTrailing path ≠ [] := by
  fun_induction dropTrailing path with
  | case1 => exact nofun
  | case2 rest more ih => exact ih fun empty => more (by rw [empty])
  | case3 => exact nofun
  | case4 rest more ih => exact ih fun empty => more (by rw [empty])
  | case5 => exact given

/-- A trimmed path is the beginning of the path. -/
theorem exists_eq_trimEnd_append (path : String) : ∃ rest, path = trimEnd path ++ rest := by
  obtain ⟨front, whole⟩ := dropTrailing_suffix path.toList.reverse
  refine ⟨String.ofList front.reverse, String.toList_injective ?_⟩
  rw [trimEnd, String.toList_append, String.toList_ofList, String.toList_ofList,
    ← List.reverse_append, whole, List.reverse_reverse]

theorem trimEnd_ne_empty (given : path ≠ "") : trimEnd path ≠ "" := by
  have nonempty : path.toList.reverse ≠ [] := by simpa using given
  have kept := dropTrailing_ne_nil nonempty
  rw [trimEnd]
  intro empty
  have gone := congrArg String.toList empty
  simp [kept] at gone

end PathText

namespace System

variable {path rest : String}

theorem refusal?_eq_none_iff : refusal? path = none ↔
    Char.ofNat 0 ∉ path.toList ∧ path ≠ "" ∧ path.utf8ByteSize ≤ longestPath := by
  unfold refusal?
  by_cases zero : Char.ofNat 0 ∈ path.toList
  · simp [zero]
  · by_cases empty : path = ""
    · simp [empty]
    · simp [zero, empty]

/-- The beginning of an accepted path is accepted. -/
theorem refusal?_of_append (given : path ≠ "") (rest : String)
    (accepted : refusal? (path ++ rest) = none) : refusal? path = none := by
  obtain ⟨plain, -, short⟩ := refusal?_eq_none_iff.1 accepted
  refine refusal?_eq_none_iff.2 ⟨fun zero => plain ?_, given, ?_⟩
  · rw [String.toList_append]
    exact List.mem_append_left _ zero
  · rw [String.utf8ByteSize_append] at short
    omega

end System

end VersionedApi.Files
