import VersionedApi.Proofs.Files.Attempts

/-!
# Directories of files

The path of a file without its last name is the path of the directory that it is
in.  To a way it makes no difference how many slashes and single dots a path has,
so the way to this directory goes on by names from the way that the path begins
with.
-/

namespace VersionedApi.Files

/-! ## Texts of paths -/

namespace PathText

variable {path next : String} {names : List String}

/-- Going on from a path by a name puts a slash before the name. -/
theorem exists_reverse_push (given : path ≠ "") (whole : '/' ∉ next.toList) :
    ∃ front, (push path next).toList.reverse = next.toList.reverse ++ '/' :: front ∧
      dropTrailing ('/' :: front) = dropTrailing path.toList.reverse := by
  have nonempty : path.isEmpty = false := by simpa using given
  have slash : "/".toList = ['/'] := by decide +kernel
  rw [push, isAbsolute_of_isWhole whole, nonempty]
  by_cases closed : path.toList.getLast? = some '/'
  · obtain ⟨front, shape⟩ := List.getLast?_eq_some_iff.1 closed
    refine ⟨front.reverse, ?_, ?_⟩
    · rw [if_neg (by simp), if_pos closed, String.toList_append, shape]
      simp
    · rw [shape, List.reverse_concat]
  · obtain ⟨last, rest, shape⟩ :=
      List.exists_cons_of_ne_nil (show path.toList.reverse ≠ [] by simpa using given)
    refine ⟨path.toList.reverse, ?_, ?_⟩
    · rw [if_neg (by simp), if_neg closed, String.toList_append, String.toList_append, slash]
      simp
    · -- A slash is dropped unless it is the whole path.
      rw [shape]
      rfl

theorem all_ne_slash (whole : '/' ∉ next.toList) :
    ∀ c ∈ next.toList.reverse, decide (c ≠ '/') = true := by
  intro c member
  apply decide_eq_true
  rintro rfl
  exact whole (List.mem_reverse.1 member)

theorem parent_push (given : path ≠ "") (whole : '/' ∉ next.toList) :
    parent (push path next) = trimEnd path := by
  obtain ⟨front, shape, trimmed⟩ := exists_reverse_push given whole
  rw [parent, shape, List.dropWhile_append_of_pos (all_ne_slash whole),
    List.dropWhile_cons_of_neg (by simp), trimEnd, String.toList_ofList, List.reverse_reverse,
    trimmed]
  rfl

theorem lastName_push (given : path ≠ "") (whole : '/' ∉ next.toList) :
    lastName (push path next) = next := by
  obtain ⟨front, shape, -⟩ := exists_reverse_push given whole
  rw [lastName, shape, List.takeWhile_append_of_pos (all_ne_slash whole),
    List.takeWhile_cons_of_neg (by simp), List.append_nil, List.reverse_reverse,
    String.ofList_toList]

/-! ## Parts that lead somewhere -/

def moving (parts : List String) : List String :=
  parts.filter fun part => !isIdle part

theorem moving_append (front rest : List String) :
    moving (front ++ rest) = moving front ++ moving rest :=
  List.filter_append front rest

theorem moving_append_of_idle (front : List String) {idle : List String}
    (idles : ∀ part ∈ idle, isIdle part) : moving (front ++ idle) = moving front := by
  have none : moving idle = [] := by
    apply List.filter_eq_nil_iff.2
    intro part member
    simp [idles part member]
  rw [moving_append, none, List.append_nil]

theorem moving_way (path : String) : moving (way path) = moving (parts path) := by
  obtain ⟨idle, shape, idles⟩ := exists_parts_eq_way path
  rw [shape, moving_append_of_idle _ idles]

theorem moving_parts_push (given : path ≠ "") (whole : '/' ∉ next.toList) :
    moving (parts (push path next)) = moving (parts path) ++ moving [next] := by
  obtain ⟨front, idle, shape, idles, pushed⟩ := exists_parts_push given whole
  rw [pushed, shape, moving_append_of_idle _ idles, moving_append]

theorem moving_parts_foldl_push (given : path ≠ "")
    (whole : ∀ name ∈ names, '/' ∉ name.toList) :
    moving (parts (names.foldl push path)) = moving (parts path) ++ moving names := by
  induction names generalizing path with
  | nil => exact (List.append_nil _).symm
  | cons name rest ih =>
      have first := whole name List.mem_cons_self
      rw [List.foldl_cons, ih (push_ne_empty given first) fun other member =>
          whole other (List.mem_cons_of_mem _ member),
        moving_parts_push given first, List.append_assoc, ← moving_append]
      rfl

/-- Idle parts behind a slash are all that trimming takes from a path. -/
theorem moving_parts_trimEnd (path : String) :
    moving (parts (trimEnd path)) = moving (parts path) := by
  have ended (front : List Char) {idle : String} (idles : isIdle idle)
      (whole : '/' ∉ idle.toList) :
      moving (parts (String.ofList (front ++ '/' :: idle.toList))) =
        moving (parts (String.ofList front)) := by
    have shape : String.ofList (front ++ '/' :: idle.toList) =
        String.ofList front ++ "/" ++ idle := by
      apply String.toList_injective
      simp
    rw [shape, parts_append_slash, parts_of_isWhole whole, moving_append_of_idle]
    simpa using idles
  have reversed (text : List Char) :
      moving (parts (String.ofList (dropTrailing text).reverse)) =
        moving (parts (String.ofList text.reverse)) := by
    fun_induction dropTrailing text with
    | case1 => rfl
    | case2 rest _ ih =>
        rw [ih, List.reverse_cons]
        exact (ended rest.reverse (show isIdle "" from rfl) (by simp)).symm
    | case3 => rfl
    | case4 rest _ ih =>
        rw [ih, List.reverse_cons, List.reverse_cons, List.append_assoc]
        exact (ended rest.reverse (show isIdle "." from rfl) (by simp)).symm
    | case5 => rfl
  have whole := reversed path.toList.reverse
  rwa [List.reverse_reverse, String.ofList_toList] at whole

theorem moving_way_below (given : path ≠ "") (whole : ∀ name ∈ names, '/' ∉ name.toList) :
    moving (way (below path names)) = moving (way path ++ names) := by
  rw [moving_way, below, moving_parts_trimEnd, moving_parts_foldl_push given whole,
    moving_append, moving_way]

theorem isAbsolute_trimEnd (given : path ≠ "") : isAbsolute (trimEnd path) = isAbsolute path := by
  obtain ⟨rest, whole⟩ := exists_eq_trimEnd_append path
  obtain ⟨c, text, shape⟩ := List.exists_cons_of_ne_nil
    (show (trimEnd path).toList ≠ [] by simpa using trimEnd_ne_empty given)
  have heads : path.toList.head? = (trimEnd path).toList.head? := by
    conv_lhs => rw [whole, String.toList_append]
    rw [shape]
    rfl
  rw [isAbsolute, isAbsolute, heads]

end PathText

/-! ## Ways along moving parts -/

namespace Tree

variable {root after : Tree} {place goal : List String}

theorem makeWay_moving_eq_ok_iff (made : Bool) (parts : List String) :
    makeWay made place (PathText.moving parts) root = .ok (after, goal) ↔
      makeWay made place parts root = .ok (after, goal) := by
  induction parts generalizing place root with
  | nil => rfl
  | cons part parts ih =>
      by_cases idle : PathText.isIdle part
      · rw [PathText.moving, List.filter_cons_of_neg (by simpa using idle), makeWay, if_pos idle]
        exact ih
      · rw [PathText.moving, List.filter_cons_of_pos (by simpa using idle)]
        simp only [makeWay_cons_eq_ok_iff made]
        constructor
        · rintro ⟨middle, next, passes, rest⟩
          exact ⟨middle, next, passes, ih.1 rest⟩
        · rintro ⟨middle, next, passes, rest⟩
          exact ⟨middle, next, passes, ih.2 rest⟩

theorem beginWay_moving (root : Tree) (place parts : List String) :
    root.beginWay place (PathText.moving parts) = root.beginWay place parts := by
  induction parts generalizing place root with
  | nil => rfl
  | cons part parts ih =>
      by_cases idle : PathText.isIdle part
      · have stays : makeWay false place [part] root = .ok (root, place) := by
          rw [makeWay, if_pos idle, makeWay]
        rw [PathText.moving, List.filter_cons_of_neg (by simpa using idle), beginWay, stays]
        exact ih root place
      · rw [PathText.moving, List.filter_cons_of_pos (by simpa using idle), beginWay, beginWay]
        split
        · rfl
        · exact ih _ _

end Tree

/-! ## Directories below a path -/

namespace System

variable {system after : System} {path : String} {base place names : List String}

theorem start_below (system : System) (given : path ≠ "")
    (whole : ∀ name ∈ names, '/' ∉ name.toList) :
    system.start (PathText.below path names) = system.start path := by
  rw [start, start, PathText.below,
    PathText.isAbsolute_trimEnd (PathText.foldl_push_ne_empty given whole),
    PathText.isAbsolute_foldl_push given whole]

/-- The way to a directory below a path is the way to the path and on by the names. -/
theorem makeDirectories_below_eq_ok_iff (given : path ≠ "")
    (whole : ∀ name ∈ names, '/' ∉ name.toList) :
    system.makeDirectories (PathText.below path names) = .ok (after, place) ↔
      refusal? (PathText.below path names) = none ∧
        ∃ root, Tree.makeWay false (system.start path) (PathText.way path ++ names) system.root =
          .ok (root, place) ∧ after = { system with root } := by
  rw [makeDirectories_eq_ok_iff, start_below system given whole]
  simp only [← Tree.makeWay_moving_eq_ok_iff false (PathText.way _),
    ← Tree.makeWay_moving_eq_ok_iff false (PathText.way path ++ names),
    PathText.moving_way_below given whole]

/-- Directories below one that is there are made by the names from it. -/
theorem makeDirectories_below_of_locate (plain : ∀ name ∈ names, IsName name)
    (located : system.locate path = .ok base) (there : system.root.HasDirectory base) :
    system.makeDirectories (PathText.below path names) = .ok (after, place) ↔
      refusal? (PathText.below path names) = none ∧
        ∃ root, Tree.makeWay false base names system.root = .ok (root, place) ∧
          after = { system with root } := by
  rw [makeDirectories_below_eq_ok_iff (ne_empty_of_locate located) fun name member =>
    (plain name member).whole]
  simp only [Tree.makeWay_append_eq_ok_iff, makeWay_of_locate located there, Except.ok.injEq,
    Prod.mk.injEq]
  constructor
  · rintro ⟨accepted, root, ⟨middle, next, ⟨rfl, rfl⟩, way⟩, rfl⟩
    exact ⟨accepted, root, way, rfl⟩
  · rintro ⟨accepted, root, way, rfl⟩
    exact ⟨accepted, root, ⟨_, _, ⟨rfl, rfl⟩, way⟩, rfl⟩

/-- Directories below the one that a path leads to are made at the place of their names. -/
theorem makeDirectories_names (plain : ∀ name ∈ names, IsName name)
    (located : system.locate path = .ok base) (there : system.root.HasDirectory base)
    (made : system.makeDirectories (PathText.below path names) = .ok (after, place)) :
    place = base ++ names ∧ after.current = system.current ∧
      system.root.makeDirectories (base ++ names) = .ok after.root ∧
      ∀ name ∈ names, name.utf8ByteSize ≤ longestName := by
  obtain ⟨-, root, way, rfl⟩ := (makeDirectories_below_of_locate plain located there).1 made
  obtain ⟨rfl, madeTree, shorts⟩ := Tree.makeWay_names plain there way
  exact ⟨rfl, rfl, madeTree, shorts⟩

/-- Directories are made below one that is there, unless a text, a name or a file stops it. -/
theorem makeDirectories_iff (plain : ∀ name ∈ names, IsName name)
    (located : system.locate path = .ok base) (there : system.root.HasDirectory base) :
    (∃ after place, system.makeDirectories (PathText.below path names) = .ok (after, place)) ↔
      refusal? (PathText.below path names) = none ∧
        (∀ name ∈ names, name.utf8ByteSize ≤ longestName) ∧
        ∀ front, front <+: names → system.root.fileAt? (base ++ front) = none := by
  rw [← Tree.makeWay_names_iff false plain there]
  simp only [makeDirectories_below_of_locate plain located there]
  constructor
  · rintro ⟨after, place, accepted, root, way, -⟩
    exact ⟨accepted, root, place, way⟩
  · rintro ⟨accepted, root, place, way⟩
    exact ⟨_, place, accepted, root, way, rfl⟩

/-- Where directories below a path could be made, the path leads to one above them. -/
theorem exists_locate_of_makeDirectories (given : path ≠ "")
    (whole : ∀ name ∈ names, '/' ∉ name.toList)
    (started : system.root.HasDirectory (system.start path)) (accepted : refusal? path = none)
    (made : system.makeDirectories (PathText.below path names) = .ok (after, place)) :
    ∃ base, after.locate path = .ok base ∧ after.root.HasDirectory base := by
  obtain ⟨-, root, way, rfl⟩ := (makeDirectories_below_eq_ok_iff given whole).1 made
  obtain ⟨middle, base, early, late⟩ := (Tree.makeWay_append_eq_ok_iff false).1 way
  obtain ⟨followed, there⟩ := Tree.follow_of_makeWay started early
  have keeps := (Tree.keeps_of_makeWay late).2
  refine ⟨base, locate_eq_ok_iff.2 ⟨accepted, ?_⟩, keeps base there⟩
  obtain ⟨idle, shape, idles⟩ := PathText.exists_parts_eq_way path
  rw [shape]
  exact Tree.follow_append_eq_ok_iff.2 ⟨base, Tree.follow_of_hasDirectory keeps followed,
    Tree.follow_of_idle idles (keeps base there)⟩

/-- The directories that an attempt adds below one that is there are on the way of the names. -/
theorem hasDirectory_of_beginDirectories {other : List String}
    (plain : ∀ name ∈ names, IsName name) (located : system.locate path = .ok base)
    (thereBase : system.root.HasDirectory base)
    (there : (system.beginDirectories (PathText.below path names)).root.HasDirectory other) :
    system.root.HasDirectory other ∨ other <+: base ++ names := by
  have given := ne_empty_of_locate located
  have whole : ∀ name ∈ names, '/' ∉ name.toList := fun name member => (plain name member).whole
  unfold beginDirectories at there
  split at there
  · exact .inl there
  · dsimp only at there
    rw [start_below system given whole, ← Tree.beginWay_moving,
      PathText.moving_way_below given whole, Tree.beginWay_moving,
      Tree.beginWay_append (makeWay_of_locate located thereBase)] at there
    exact Tree.hasDirectory_of_beginWay_names plain there

end System

end VersionedApi.Files
