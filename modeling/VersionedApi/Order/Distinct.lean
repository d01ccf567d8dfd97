/-!
# Sorted lists without repetitions

In a sorted list equal members are neighbours, so it is enough to drop a member
that the next one repeats.  Main statements: this loses no member, and what is
left ascends strictly.
-/

namespace VersionedApi.Order

variable {α : Type} [DecidableEq α]

/-- A list without the members that the next one repeats. -/
def dropRepeated : List α → List α
  | [] => []
  | [member] => [member]
  | member :: next :: rest =>
    if member = next then dropRepeated (next :: rest)
    else member :: dropRepeated (next :: rest)

theorem mem_dropRepeated {x : α} (members : List α) :
    x ∈ dropRepeated members ↔ x ∈ members := by
  fun_induction dropRepeated members with
  | case1 => simp
  | case2 member => simp
  | case3 next rest ih => simp [ih]
  | case4 member next rest different ih => simp [ih]

/-- In a sorted list without the members that the next one repeats all members differ. -/
theorem pairwise_dropRepeated {le : α → α → Prop}
    (antisymm : ∀ x y, le x y → le y x → x = y) {members : List α} (sorted : members.Pairwise le) :
    (dropRepeated members).Pairwise fun left right => le left right ∧ left ≠ right := by
  fun_induction dropRepeated members with
  | case1 => exact .nil
  | case2 member => exact List.pairwise_singleton _ _
  | case3 next rest ih => exact ih (List.pairwise_cons.1 sorted).2
  | case4 member next rest different ih =>
      obtain ⟨first, later⟩ := List.pairwise_cons.1 sorted
      refine List.pairwise_cons.2 ⟨fun other kept => ?_, ih later⟩
      have among := (mem_dropRepeated _).1 kept
      refine ⟨first other among, ?_⟩
      rintro rfl
      -- A member that came again later would stand on both sides of the next one.
      rcases List.mem_cons.1 among with same | again
      · exact different same
      · exact different (antisymm _ _ (first next List.mem_cons_self)
          ((List.pairwise_cons.1 later).1 _ again))

def sortDistinct (le : α → α → Bool) (members : List α) : List α :=
  dropRepeated (members.mergeSort le)

theorem mem_sortDistinct {x : α} (le : α → α → Bool) (members : List α) :
    x ∈ sortDistinct le members ↔ x ∈ members := by
  simp [sortDistinct, mem_dropRepeated]

end VersionedApi.Order
