import VersionedApi.Proofs.Files.Refusals

/-!
# Ways that cannot be made

A way is made part by part, and only files and long names stop it.  Making
directories changes neither, so a way that could not be made is stopped again at
the same part, however often it is tried.
-/

namespace VersionedApi.Files

namespace Tree

variable {root middle after : Tree} {place next goal base : List String}
  {part : String} {parts names front rest : List String} {content : String}

/-! ## Making directories where no file is -/

theorem fileAt?_eq_none_of_hasDirectory (there : root.HasDirectory place) :
    root.fileAt? place = none := by
  rw [fileAt?, show root.readFile place = _ from there]
  rfl

/-- Directories can be made wherever no file is on the way. -/
theorem exists_makeDirectories (free : ∀ front, front <+: place → root.fileAt? front = none) :
    ∃ after, root.makeDirectories place = .ok after := by
  induction place generalizing root with
  | nil =>
      cases root with
      | file content => cases free [] List.nil_prefix
      | directory entries => exact ⟨_, rfl⟩
  | cons name names ih =>
      cases root with
      | file content => cases free [] List.nil_prefix
      | directory entries =>
          have deeper : ∀ front, front <+: names →
              ((entries.lookup name).getD (directory [])).fileAt? front = none := by
            intro front begins
            rw [fileAt?_getD_directory, ← fileAt?_directory_cons]
            exact free _ (List.cons_prefix_cons.2 ⟨rfl, begins⟩)
          obtain ⟨tree, made⟩ := ih deeper
          exact ⟨_, makeDirectories_cons_eq_ok_iff.2 ⟨entries, tree, rfl, made, rfl⟩⟩

/-- Where directories could be made there is no file. -/
theorem fileAt?_of_makeDirectories (made : root.makeDirectories place = .ok after) :
    root.fileAt? place = none := by
  rw [← fileAt?_makeDirectories made]
  exact fileAt?_eq_none_of_hasDirectory
    ((hasDirectory_makeDirectories made).2 (.inl (List.prefix_refl _)))

/-- No file has anything below it. -/
theorem fileAt?_append_of_hasDirectory (there : root.HasDirectory place)
    (free : root.fileAt? (place ++ [part]) = none) :
    ∀ front, front <+: place ++ [part] → root.fileAt? front = none := by
  intro front begins
  rcases List.prefix_concat_iff.1 begins with rfl | before
  · exact free
  · obtain ⟨rest, rfl⟩ := before
    exact fileAt?_eq_none_of_hasDirectory there.of_append

/-! ## Passing one part -/

/-- A part of a way is passed; a name leads to a directory, which is made if it is missing. -/
inductive Passes (root : Tree) (place : List String) : String → Tree → List String → Prop where
  | idle {part : String} (idle : PathText.isIdle part) : Passes root place part root place
  | back : Passes root place ".." root place.dropLast
  | name {part : String} {after : Tree} (moves : PathText.isIdle part = false)
      (descends : part ≠ "..") (short : part.utf8ByteSize ≤ longestName)
      (made : root.makeDirectories (place ++ [part]) = .ok after) :
      Passes root place part after (place ++ [part])

/-- Whether a way can be made does not depend on what was made before. -/
theorem makeWay_eq_ok_congr (made other : Bool) :
    makeWay made place parts root = .ok (after, goal) ↔
      makeWay other place parts root = .ok (after, goal) := by
  induction parts generalizing place root with
  | nil => rfl
  | cons part parts ih =>
      rw [makeWay, makeWay]
      split
      · exact ih
      · split
        · exact ih
        · split
          · rfl
          · split
            · exact ih
            · simp
            · rfl

theorem passes_iff_of_idle (idle : PathText.isIdle part) :
    root.Passes place part after next ↔ after = root ∧ next = place := by
  constructor
  · intro passes
    cases passes with
    | idle => exact ⟨rfl, rfl⟩
    | back => cases idle
    | name moves => rw [moves] at idle; cases idle
  · rintro ⟨rfl, rfl⟩
    exact .idle idle

theorem passes_back_iff : root.Passes place ".." after next ↔
    after = root ∧ next = place.dropLast := by
  constructor
  · intro passes
    cases passes with
    | idle idle => cases idle
    | back => exact ⟨rfl, rfl⟩
    | name moves descends => exact absurd rfl descends
  · rintro ⟨rfl, rfl⟩
    exact .back

theorem passes_iff_of_name (moves : PathText.isIdle part = false) (descends : part ≠ "..") :
    root.Passes place part after next ↔ part.utf8ByteSize ≤ longestName ∧
      root.makeDirectories (place ++ [part]) = .ok after ∧ next = place ++ [part] := by
  constructor
  · intro passes
    cases passes with
    | idle idle => rw [moves] at idle; cases idle
    | back => exact absurd rfl descends
    | name _ _ short made => exact ⟨short, made, rfl⟩
  · rintro ⟨short, made, rfl⟩
    exact .name moves descends short made

/-- A way is made by passing its first part and making the rest from there. -/
theorem makeWay_cons_eq_ok_iff (made : Bool) :
    makeWay made place (part :: parts) root = .ok (after, goal) ↔
      ∃ middle next, root.Passes place part middle next ∧
        makeWay made next parts middle = .ok (after, goal) := by
  rw [makeWay]
  by_cases idle : PathText.isIdle part
  · simp [idle, passes_iff_of_idle idle]
  · by_cases back : part = ".."
    · subst back
      simp [idle, passes_back_iff]
    · rw [if_neg idle, if_neg back]
      simp only [passes_iff_of_name (Bool.eq_false_iff.2 idle) back]
      by_cases long : longestName < part.utf8ByteSize
      · simp [long, Nat.not_le.2 long]
      · rw [if_neg long]
        split
        · next there =>
            -- The directory is there already.
            have kept := makeDirectories_of_hasDirectory there
            simp [kept, Nat.not_lt.1 long]
        · next content present =>
            have blocked : ∀ middle, root.makeDirectories (place ++ [part]) ≠ .ok middle := by
              intro middle made
              have none := fileAt?_of_makeDirectories made
              rw [readFile_eq_ok_iff.1 present] at none
              cases none
            simp [blocked]
        · split
          · next failed => simp [failed]
          · next middle makes => simp [makes, Nat.not_lt.1 long, makeWay_eq_ok_congr true made]

theorem makeWay_single_eq_ok_iff (made : Bool) :
    makeWay made place [part] root = .ok (after, goal) ↔ root.Passes place part after goal := by
  rw [makeWay_cons_eq_ok_iff]
  simp [makeWay]

theorem Passes.unique {other : Tree} {others : List String}
    (passes : root.Passes place part after next) (again : root.Passes place part other others) :
    other = after ∧ others = next := by
  have ways := (makeWay_single_eq_ok_iff false).2 passes
  rw [(makeWay_single_eq_ok_iff false).2 again] at ways
  exact Prod.mk.inj (Except.ok.inj ways)

theorem Passes.fileAt? {other : List String} (passes : root.Passes place part after next) :
    after.fileAt? other = root.fileAt? other := by
  cases passes with
  | idle => rfl
  | back => rfl
  | name _ _ _ made => exact fileAt?_makeDirectories made

theorem Passes.hasDirectory {other : List String} (passes : root.Passes place part after next)
    (there : root.HasDirectory other) : after.HasDirectory other := by
  cases passes with
  | idle => exact there
  | back => exact there
  | name _ _ _ made => exact (hasDirectory_makeDirectories made).2 (.inr there)

/-- What was passed once is passed again without making anything, as long as directories stay. -/
theorem Passes.again {later : Tree} (passes : root.Passes place part after next)
    (keeps : ∀ other, after.HasDirectory other → later.HasDirectory other) :
    later.Passes place part later next := by
  cases passes with
  | idle idle => exact .idle idle
  | back => exact .back
  | name moves descends short made =>
      have there := keeps _ ((hasDirectory_makeDirectories made).2 (.inl (List.prefix_refl _)))
      exact .name moves descends short (makeDirectories_of_hasDirectory there)

/-- A passed part leads on from a directory to a directory. -/
theorem Passes.step? (passes : root.Passes place part after next)
    (there : root.HasDirectory place) :
    Tree.step? place part = some next ∧ after.HasDirectory next := by
  cases passes with
  | idle idle => exact ⟨if_pos idle, there⟩
  | back =>
      refine ⟨rfl, ?_⟩
      obtain ⟨rest, whole⟩ := place.dropLast_prefix
      rw [← whole] at there
      exact there.of_append
  | name moves descends short made =>
      refine ⟨?_, (hasDirectory_makeDirectories made).2 (.inl (List.prefix_refl _))⟩
      simp [Tree.step?, moves, descends, Nat.not_lt.2 short]

/-- Idle parts stay at a directory. -/
theorem follow_of_idle (idle : ∀ part ∈ parts, PathText.isIdle part)
    (there : root.HasDirectory place) : root.follow place parts = .ok place := by
  induction parts with
  | nil => rfl
  | cons part parts ih =>
      exact follow_cons_eq_ok_iff.2 ⟨there, place, if_pos (idle part List.mem_cons_self),
        ih fun other member => idle other (List.mem_cons_of_mem _ member)⟩

/-! ## Ways that are made -/

/-- Making a way keeps all files and directories. -/
theorem keeps_of_makeWay {made : Bool} (way : makeWay made place parts root = .ok (after, goal)) :
    (∀ other, after.fileAt? other = root.fileAt? other) ∧
      ∀ other, root.HasDirectory other → after.HasDirectory other := by
  induction parts generalizing place root with
  | nil =>
      simp only [makeWay, Except.ok.injEq, Prod.mk.injEq] at way
      obtain ⟨rfl, rfl⟩ := way
      exact ⟨fun _ => rfl, fun _ => id⟩
  | cons part parts ih =>
      obtain ⟨middle, next, passes, rest⟩ := (makeWay_cons_eq_ok_iff made).1 way
      obtain ⟨files, directories⟩ := ih rest
      exact ⟨fun other => (files other).trans passes.fileAt?,
        fun other there => directories other (passes.hasDirectory there)⟩

/-- A way that was made is there to be taken, as long as directories stay. -/
theorem makeWay_again {made : Bool} {later : Tree}
    (way : makeWay made place parts root = .ok (after, goal))
    (keeps : ∀ other, after.HasDirectory other → later.HasDirectory other) :
    makeWay made place parts later = .ok (later, goal) := by
  induction parts generalizing place root with
  | nil =>
      simp only [makeWay, Except.ok.injEq, Prod.mk.injEq] at way
      rw [makeWay, way.2]
  | cons part parts ih =>
      obtain ⟨middle, next, passes, rest⟩ := (makeWay_cons_eq_ok_iff made).1 way
      have passesAgain := passes.again fun other there =>
        keeps other ((keeps_of_makeWay rest).2 other there)
      exact (makeWay_cons_eq_ok_iff made).2 ⟨later, next, passesAgain, ih rest⟩

/-- A way that was made from a directory can be followed to a directory. -/
theorem follow_of_makeWay {made : Bool} (there : root.HasDirectory place)
    (way : makeWay made place parts root = .ok (after, goal)) :
    after.follow place parts = .ok goal ∧ after.HasDirectory goal := by
  induction parts generalizing place root with
  | nil =>
      simp only [makeWay, Except.ok.injEq, Prod.mk.injEq] at way
      obtain ⟨rfl, rfl⟩ := way
      exact ⟨rfl, there⟩
  | cons part parts ih =>
      obtain ⟨middle, next, passes, rest⟩ := (makeWay_cons_eq_ok_iff made).1 way
      obtain ⟨step, thereNext⟩ := passes.step? there
      obtain ⟨followed, thereGoal⟩ := ih thereNext rest
      have thereStill := (keeps_of_makeWay rest).2 place (passes.hasDirectory there)
      exact ⟨follow_cons_eq_ok_iff.2 ⟨thereStill, next, step, followed⟩, thereGoal⟩

theorem makeWay_append_eq_ok_iff (made : Bool) :
    makeWay made place (front ++ rest) root = .ok (after, goal) ↔
      ∃ middle next, makeWay made place front root = .ok (middle, next) ∧
        makeWay made next rest middle = .ok (after, goal) := by
  induction front generalizing place root with
  | nil => simp [makeWay]
  | cons part parts ih =>
      rw [List.cons_append]
      simp only [makeWay_cons_eq_ok_iff made, ih]
      constructor
      · rintro ⟨first, next, passes, middle, last, early, late⟩
        exact ⟨middle, last, ⟨first, next, passes, early⟩, late⟩
      · rintro ⟨middle, last, ⟨first, next, passes, early⟩, late⟩
        exact ⟨first, next, passes, middle, last, early, late⟩

/-- From a directory a way along names is stopped only by long names and by files. -/
theorem makeWay_names_iff (made : Bool) (plain : ∀ name ∈ names, IsName name)
    (there : root.HasDirectory place) :
    (∃ after goal, makeWay made place names root = .ok (after, goal)) ↔
      (∀ name ∈ names, name.utf8ByteSize ≤ longestName) ∧
        ∀ front, front <+: names → root.fileAt? (place ++ front) = none := by
  induction names generalizing place root with
  | nil =>
      have free : ∀ front, front <+: [] → root.fileAt? (place ++ front) = none := by
        intro front begins
        rw [List.prefix_nil.1 begins, List.append_nil]
        exact fileAt?_eq_none_of_hasDirectory there
      exact ⟨fun _ => ⟨nofun, free⟩, fun _ => ⟨root, place, rfl⟩⟩
  | cons name rest ih =>
      have isName := plain name List.mem_cons_self
      have others : ∀ other ∈ rest, IsName other := fun other member =>
        plain other (List.mem_cons_of_mem _ member)
      simp only [makeWay_cons_eq_ok_iff made, passes_iff_of_name isName.moves isName.descends]
      constructor
      · rintro ⟨after, goal, middle, next, ⟨short, makes, rfl⟩, way⟩
        have thereNow := (hasDirectory_makeDirectories makes).2 (.inl (List.prefix_refl _))
        obtain ⟨shorts, free⟩ := (ih others thereNow).1 ⟨after, goal, way⟩
        refine ⟨List.forall_mem_cons.2 ⟨short, shorts⟩, ?_⟩
        intro front begins
        cases front with
        | nil =>
            rw [List.append_nil]
            exact fileAt?_eq_none_of_hasDirectory there
        | cons first names =>
            obtain ⟨rfl, deeper⟩ := List.cons_prefix_cons.1 begins
            rw [List.append_cons, ← fileAt?_makeDirectories makes]
            exact free names deeper
      · rintro ⟨shorts, free⟩
        obtain ⟨short, shortRest⟩ := List.forall_mem_cons.1 shorts
        have freeName := free [name] (List.cons_prefix_cons.2 ⟨rfl, List.nil_prefix⟩)
        obtain ⟨middle, makes⟩ := exists_makeDirectories
          (fileAt?_append_of_hasDirectory there freeName)
        have thereNow := (hasDirectory_makeDirectories makes).2 (.inl (List.prefix_refl _))
        obtain ⟨after, goal, way⟩ := (ih others thereNow).2 ⟨shortRest, fun front begins => by
          rw [fileAt?_makeDirectories makes, ← List.append_cons]
          exact free _ (List.cons_prefix_cons.2 ⟨rfl, begins⟩)⟩
        exact ⟨after, goal, middle, _, ⟨short, makes, rfl⟩, way⟩

/-! ## Ways that are stopped -/

/-- A way that can be made is made to its end. -/
theorem beginWay_of_makeWay (way : makeWay false place parts root = .ok (after, goal)) :
    root.beginWay place parts = after := by
  induction parts generalizing place root with
  | nil =>
      simp only [makeWay, Except.ok.injEq, Prod.mk.injEq] at way
      exact way.1
  | cons part parts ih =>
      obtain ⟨middle, next, passes, rest⟩ := (makeWay_cons_eq_ok_iff false).1 way
      rw [beginWay, (makeWay_single_eq_ok_iff false).2 passes]
      exact ih rest

/-- The first part of a way is passed, or it stops the way. -/
theorem beginWay_cons_cases (root : Tree) (place : List String) (part : String)
    (parts : List String) :
    (∃ middle next, root.Passes place part middle next ∧
      root.beginWay place (part :: parts) = middle.beginWay next parts) ∨
    (∀ middle next, ¬ root.Passes place part middle next) ∧
      root.beginWay place (part :: parts) = root := by
  rw [beginWay]
  cases way : makeWay false place [part] root with
  | error error =>
      refine .inr ⟨fun middle next passes => ?_, rfl⟩
      rw [(makeWay_single_eq_ok_iff false).2 passes] at way
      cases way
  | ok reached =>
      obtain ⟨middle, next⟩ := reached
      exact .inl ⟨middle, next, (makeWay_single_eq_ok_iff false).1 way, rfl⟩

theorem keeps_beginWay (root : Tree) (place parts : List String) :
    (∀ other, (root.beginWay place parts).fileAt? other = root.fileAt? other) ∧
      ∀ other, root.HasDirectory other → (root.beginWay place parts).HasDirectory other := by
  induction parts generalizing place root with
  | nil => exact ⟨fun _ => rfl, fun _ => id⟩
  | cons part parts ih =>
      rcases beginWay_cons_cases root place part parts with ⟨middle, next, passes, same⟩ | ⟨-, same⟩
      · obtain ⟨files, directories⟩ := ih middle next
        rw [same]
        exact ⟨fun other => (files other).trans passes.fileAt?,
          fun other there => directories other (passes.hasDirectory there)⟩
      · rw [same]
        exact ⟨fun _ => rfl, fun _ => id⟩

/-- A second attempt comes as far as the first, and what is there is enough for it. -/
theorem beginWay_beginWay (root : Tree) (place parts : List String) :
    (root.beginWay place parts).beginWay place parts = root.beginWay place parts := by
  induction parts generalizing place root with
  | nil => rfl
  | cons part parts ih =>
      rcases beginWay_cons_cases root place part parts with ⟨middle, next, passes, same⟩ | ⟨-, same⟩
      · have passesAgain := passes.again (keeps_beginWay middle next parts).2
        rw [same, beginWay, (makeWay_single_eq_ok_iff false).2 passesAgain]
        exact ih middle next
      · rw [same, same]

/-- A way that was stopped is stopped again. -/
theorem makeWay_of_beginWay {later : Tree}
    (way : makeWay false place parts (root.beginWay place parts) = .ok (later, goal)) :
    ∃ after, makeWay false place parts root = .ok (after, goal) := by
  induction parts generalizing place root with
  | nil =>
      simp only [makeWay, Except.ok.injEq, Prod.mk.injEq] at way
      exact ⟨root, by rw [makeWay, way.2]⟩
  | cons part parts ih =>
      rcases beginWay_cons_cases root place part parts with ⟨middle, next, passes, same⟩ | ⟨-, same⟩
      · have passesAgain := passes.again (keeps_beginWay middle next parts).2
        rw [same] at way
        obtain ⟨second, last, passesNow, rest⟩ := (makeWay_cons_eq_ok_iff false).1 way
        obtain ⟨rfl, rfl⟩ := passesAgain.unique passesNow
        obtain ⟨after, made⟩ := ih rest
        exact ⟨after, (makeWay_cons_eq_ok_iff false).2 ⟨middle, _, passes, made⟩⟩
      · rw [same] at way
        exact ⟨later, way⟩

theorem beginWay_append (way : makeWay false place front root = .ok (middle, next)) :
    root.beginWay place (front ++ rest) = middle.beginWay next rest := by
  induction front generalizing place root with
  | nil =>
      simp only [makeWay, Except.ok.injEq, Prod.mk.injEq] at way
      rw [List.nil_append, way.1, way.2]
  | cons part parts ih =>
      obtain ⟨first, second, passes, later⟩ := (makeWay_cons_eq_ok_iff false).1 way
      rw [List.cons_append, beginWay, (makeWay_single_eq_ok_iff false).2 passes]
      exact ih later

/-- The directories that are new after a way along names are on this way. -/
theorem hasDirectory_of_beginWay_names {other : List String} (plain : ∀ name ∈ names, IsName name)
    (there : (root.beginWay place names).HasDirectory other) :
    root.HasDirectory other ∨ other <+: place ++ names := by
  induction names generalizing place root with
  | nil => exact .inl there
  | cons name rest ih =>
      have isName := plain name List.mem_cons_self
      rcases beginWay_cons_cases root place name rest with ⟨middle, next, passes, same⟩ | ⟨-, same⟩
      · obtain ⟨-, made, rfl⟩ := (passes_iff_of_name isName.moves isName.descends).1 passes
        rw [same] at there
        rcases ih (fun other member => plain other (List.mem_cons_of_mem _ member)) there with
          early | late
        · rcases (hasDirectory_makeDirectories made).1 early with onWay | before
          · exact .inr (onWay.trans ⟨rest, (List.append_cons _ _ _).symm⟩)
          · exact .inl before
        · rw [List.append_cons]
          exact .inr late
      · exact .inl (same ▸ there)

/-! ## Files that cannot be written -/

/-- In a directory only a directory keeps a file from being written. -/
theorem writeFile_name_iff {name : String} (content : String)
    (there : root.HasDirectory place) :
    (∃ after, root.writeFile content (place ++ [name]) = .ok after) ↔
      ¬ root.HasDirectory (place ++ [name]) := by
  induction place generalizing root with
  | nil =>
      cases root with
      | file old => exact absurd there hasDirectory_file
      | directory entries =>
          rw [List.nil_append, hasDirectory_cons]
          simp only [writeFile_cons_eq_ok_iff]
          cases present : entries.lookup name with
          | none => simp [present]
          | some old =>
              cases old with
              | file old => simp [present, writeFile]
              | directory others => simp [present, writeFile]
  | cons first rest ih =>
      cases root with
      | file old => exact absurd there hasDirectory_file
      | directory entries =>
          obtain ⟨tree, present, deeper⟩ := hasDirectory_cons.1 there
          rw [List.cons_append, hasDirectory_cons]
          simp only [present, Option.some.injEq, exists_eq_left', ← ih deeper]
          constructor
          · rintro ⟨after, wrote⟩
            obtain ⟨_, grown, shape, written, -⟩ := writeFile_cons_eq_ok_iff.1 wrote
            obtain rfl := Tree.directory.inj shape
            exact ⟨grown, by simpa only [present] using written⟩
          · rintro ⟨grown, written⟩
            exact ⟨_, writeFile_cons_eq_ok_iff.2
              ⟨entries, grown, rfl, by simpa only [present] using written, rfl⟩⟩

end Tree

/-! ## File systems -/

namespace System

variable {system after : System} {path : String} {base place : List String}

theorem makeDirectories_eq_ok_iff : system.makeDirectories path = .ok (after, place) ↔
    refusal? path = none ∧
      ∃ root, Tree.makeWay false (system.start path) (PathText.way path) system.root =
        .ok (root, place) ∧ after = { system with root } := by
  unfold makeDirectories
  cases refusal? path with
  | some error => simp
  | none =>
      simp only [Description.bind_eq_ok_iff, Description.pure_eq_ok_iff, Prod.exists,
        Prod.mk.injEq, true_and]
      constructor
      · rintro ⟨root, goal, way, rfl, rfl⟩
        exact ⟨root, way, rfl⟩
      · rintro ⟨root, way, rfl⟩
        exact ⟨root, place, way, rfl, rfl⟩

/-- A path that leads to a directory is a way to it that needs not be made. -/
theorem makeWay_of_locate (located : system.locate path = .ok base)
    (there : system.root.HasDirectory base) :
    Tree.makeWay false (system.start path) (PathText.way path) system.root =
      .ok (system.root, base) := by
  obtain ⟨idle, shape, idles⟩ := PathText.exists_parts_eq_way path
  have followed := (locate_eq_ok_iff.1 located).2
  rw [shape] at followed
  obtain ⟨middle, first, second⟩ := Tree.follow_append_eq_ok_iff.1 followed
  obtain rfl := Tree.follow_idle idles second
  simpa [Tree.makeWay] using Tree.makeWay_of_follow false first there []

/-- Making directories that could be made changes nothing any more. -/
theorem makeDirectories_again (made : system.makeDirectories path = .ok (after, place)) :
    after.makeDirectories path = .ok (after, place) := by
  obtain ⟨accepted, root, way, rfl⟩ := makeDirectories_eq_ok_iff.1 made
  exact makeDirectories_eq_ok_iff.2
    ⟨accepted, root, Tree.makeWay_again way fun _ => id, rfl⟩

/-! ## Directories of a write that failed -/

theorem beginDirectories_of_makeDirectories
    (made : system.makeDirectories path = .ok (after, place)) :
    system.beginDirectories path = after := by
  obtain ⟨accepted, root, way, rfl⟩ := makeDirectories_eq_ok_iff.1 made
  unfold beginDirectories
  rw [accepted]
  dsimp only
  rw [Tree.beginWay_of_makeWay way]

theorem keeps_beginDirectories (system : System) (path : String) :
    (system.beginDirectories path).current = system.current ∧
      (∀ other, (system.beginDirectories path).root.fileAt? other =
        system.root.fileAt? other) ∧
      ∀ other, system.root.HasDirectory other →
        (system.beginDirectories path).root.HasDirectory other := by
  unfold beginDirectories
  split
  · exact ⟨rfl, fun _ => rfl, fun _ => id⟩
  · exact ⟨rfl, Tree.keeps_beginWay _ _ _⟩

theorem beginDirectories_again (system : System) (path : String) :
    (system.beginDirectories path).beginDirectories path = system.beginDirectories path := by
  unfold beginDirectories
  split
  · rfl
  · exact congrArg (System.mk · system.current) (Tree.beginWay_beginWay _ _ _)

/-- Making directories keeps all files and directories. -/
theorem keeps_of_makeDirectories (made : system.makeDirectories path = .ok (after, place)) :
    after.current = system.current ∧
      (∀ other, after.root.fileAt? other = system.root.fileAt? other) ∧
      ∀ other, system.root.HasDirectory other → after.root.HasDirectory other := by
  rw [← beginDirectories_of_makeDirectories made]
  exact keeps_beginDirectories system path

/-- Directories that could not be made cannot be made from what the attempt left. -/
theorem makeDirectories_of_beginDirectories {later : System}
    (made : (system.beginDirectories path).makeDirectories path = .ok (later, place)) :
    ∃ after, system.makeDirectories path = .ok (after, place) := by
  obtain ⟨accepted, root, way, -⟩ := makeDirectories_eq_ok_iff.1 made
  unfold beginDirectories at way
  rw [accepted] at way
  obtain ⟨after, first⟩ := Tree.makeWay_of_beginWay way
  exact ⟨_, makeDirectories_eq_ok_iff.2 ⟨accepted, after, first, rfl⟩⟩

end System

end VersionedApi.Files
