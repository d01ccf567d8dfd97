import VersionedApi.Files.System
import VersionedApi.Proofs.Description.Outcome
import VersionedApi.Proofs.Files.Places

/-!
# Ways to places

A path is followed part by part, and each part but the last has to leave a
directory.  From a directory that a path leads to, making a way along names is
making directories at one place, and the path of that place leads there.
-/

namespace VersionedApi.Files

/-- A part of a path that leads to an entry of a directory. -/
structure IsName (part : String) : Prop where
  moves : PathText.isIdle part = false
  descends : part ≠ ".."
  whole : '/' ∉ part.toList

/-! ## Texts of paths -/

namespace PathText

theorem splitSlashes_ne_nil (text : List Char) : splitSlashes text ≠ [] := by
  cases text with
  | nil => exact nofun
  | cons c rest =>
      rw [splitSlashes]
      split
      · exact nofun
      · split <;> exact nofun

theorem splitSlashes_append_slash (front rest : List Char) :
    splitSlashes (front ++ '/' :: rest) = splitSlashes front ++ splitSlashes rest := by
  induction front with
  | nil => simp [splitSlashes]
  | cons c text ih =>
      by_cases slash : c = '/'
      · simp [splitSlashes, slash, ih]
      · obtain ⟨part, others, shape⟩ := List.exists_cons_of_ne_nil (splitSlashes_ne_nil text)
        simp [splitSlashes, slash, ih, shape]

theorem splitSlashes_of_not_mem {text : List Char} (whole : '/' ∉ text) :
    splitSlashes text = [text] := by
  induction text with
  | nil => rfl
  | cons c rest ih =>
      obtain ⟨unlike, wholeRest⟩ := not_or.1 (List.mem_cons.not.1 whole)
      simp [splitSlashes, Ne.symm unlike, ih wholeRest]

theorem parts_of_isWhole {part : String} (whole : '/' ∉ part.toList) : parts part = [part] := by
  simp [parts, splitSlashes_of_not_mem whole]

theorem parts_append_slash (front rest : String) :
    parts (front ++ "/" ++ rest) = parts front ++ parts rest := by
  have slash : "/".toList = ['/'] := by decide +kernel
  simp [parts, slash, splitSlashes_append_slash]

theorem isAbsolute_of_isWhole {part : String} (whole : '/' ∉ part.toList) :
    isAbsolute part = false := by
  rw [isAbsolute, beq_eq_false_iff_ne]
  intro head
  exact whole (List.mem_of_head? head)

/-- The parts of a path up to the last that leads somewhere, and the idle ones behind it. -/
theorem exists_parts_eq_way (path : String) :
    ∃ idle, parts path = way path ++ idle ∧ ∀ part ∈ idle, isIdle part := by
  refine ⟨((parts path).reverse.takeWhile isIdle).reverse, ?_, ?_⟩
  · rw [way, ← List.reverse_append, List.takeWhile_append_dropWhile, List.reverse_reverse]
  · intro part member
    exact List.all_eq_true.1 List.all_takeWhile part (List.mem_reverse.1 member)

/-- Going on from a path by a name adds a part, in the place of an empty one at the end. -/
theorem exists_parts_push {path next : String} (given : path ≠ "")
    (whole : '/' ∉ next.toList) :
    ∃ front idle, parts path = front ++ idle ∧ (∀ part ∈ idle, isIdle part) ∧
      parts (push path next) = front ++ [next] := by
  have nonempty : path.isEmpty = false := by simpa using given
  rw [push, isAbsolute_of_isWhole whole, nonempty]
  by_cases closed : path.toList.getLast? = some '/'
  · obtain ⟨front, shape⟩ := List.getLast?_eq_some_iff.1 closed
    obtain rfl : path = String.ofList front ++ "/" ++ "" := by
      apply String.toList_injective
      simpa using shape
    refine ⟨parts (String.ofList front), [""], parts_append_slash _ _, by decide, ?_⟩
    rw [if_neg (by simp), if_pos closed, String.append_empty, parts_append_slash,
      parts_of_isWhole whole]
  · refine ⟨parts path, [], (List.append_nil _).symm, nofun, ?_⟩
    rw [if_neg (by simp), if_neg closed, parts_append_slash, parts_of_isWhole whole]

/-- Going on from a path by a name keeps its beginning. -/
theorem head?_push {path next : String} (given : path ≠ "") (whole : '/' ∉ next.toList) :
    (push path next).toList.head? = path.toList.head? := by
  have nonempty : path.isEmpty = false := by simpa using given
  obtain ⟨c, rest, shape⟩ :=
    List.exists_cons_of_ne_nil (show path.toList ≠ [] by simpa using given)
  rw [push, isAbsolute_of_isWhole whole, nonempty]
  split
  · next impossible => simp at impossible
  · split <;> simp [shape]

theorem push_ne_empty {path next : String} (given : path ≠ "") (whole : '/' ∉ next.toList) :
    push path next ≠ "" := by
  have begun : ∀ text : String, text ≠ "" ↔ text.toList.head?.isSome := by simp
  rw [begun, head?_push given whole]
  exact (begun path).1 given

theorem isAbsolute_foldl_push {path : String} {names : List String} (given : path ≠ "")
    (whole : ∀ name ∈ names, '/' ∉ name.toList) :
    isAbsolute (names.foldl push path) = isAbsolute path := by
  induction names generalizing path with
  | nil => rfl
  | cons next rest ih =>
      have first := whole next List.mem_cons_self
      rw [List.foldl_cons, ih (push_ne_empty given first)
        fun other member => whole other (List.mem_cons_of_mem _ member)]
      rw [isAbsolute, isAbsolute, head?_push given first]

end PathText

namespace Tree

variable {root after : Tree} {place goal base : List String} {parts names : List String}

/-! ## Following parts -/

theorem requireDirectory_eq_ok_iff :
    root.requireDirectory place = .ok () ↔ root.HasDirectory place := by
  unfold requireDirectory HasDirectory
  split
  · next found => simp [found]
  · next error other found =>
      simp only [found, reduceCtorEq, false_iff, Except.error.injEq]
      rintro rfl
      exact other rfl
  · next found => simp [found]

/-- The place next to a place by a part, unless the part is too long a name. -/
def step? (place : List String) (part : String) : Option (List String) :=
  if PathText.isIdle part then some place
  else if part = ".." then some place.dropLast
  else if longestName < part.utf8ByteSize then none
  else some (place ++ [part])

theorem follow_cons_eq_ok_iff {part : String} :
    root.follow place (part :: parts) = .ok goal ↔
      root.HasDirectory place ∧
        ∃ next, step? place part = some next ∧ root.follow next parts = .ok goal := by
  rw [follow, ← requireDirectory_eq_ok_iff, step?]
  cases required : root.requireDirectory place with
  | error error => simp
  | ok done =>
      dsimp only
      by_cases idle : PathText.isIdle part
      · simp [idle]
      · by_cases back : part = ".."
        · subst back
          simp [idle]
        · by_cases long : longestName < part.utf8ByteSize
          · simp [idle, back, long]
          · simp [idle, back, long]

theorem follow_append_eq_ok_iff {front rest : List String} :
    root.follow place (front ++ rest) = .ok goal ↔
      ∃ middle, root.follow place front = .ok middle ∧ root.follow middle rest = .ok goal := by
  induction front generalizing place with
  | nil => simp [follow]
  | cons part front ih =>
      rw [List.cons_append, follow_cons_eq_ok_iff]
      simp only [follow_cons_eq_ok_iff, ih]
      constructor
      · rintro ⟨there, next, step, middle, first, second⟩
        exact ⟨middle, ⟨there, next, step, first⟩, second⟩
      · rintro ⟨middle, ⟨there, next, step, first⟩, second⟩
        exact ⟨there, next, step, middle, first, second⟩

theorem follow_idle (idle : ∀ part ∈ parts, PathText.isIdle part)
    (followed : root.follow place parts = .ok goal) : goal = place := by
  induction parts with
  | nil => exact (Except.ok.inj followed).symm
  | cons part rest ih =>
      obtain ⟨-, next, step, followedRest⟩ := follow_cons_eq_ok_iff.1 followed
      rw [step?, if_pos (idle part List.mem_cons_self)] at step
      obtain rfl := Option.some.inj step
      exact ih (fun other member => idle other (List.mem_cons_of_mem _ member)) followedRest

/-- What can be followed goes on being so as long as directories stay. -/
theorem follow_of_hasDirectory (keeps : ∀ place, root.HasDirectory place → after.HasDirectory place)
    (followed : root.follow place parts = .ok goal) : after.follow place parts = .ok goal := by
  induction parts generalizing place with
  | nil => exact followed
  | cons part rest ih =>
      obtain ⟨there, next, step, followedRest⟩ := follow_cons_eq_ok_iff.1 followed
      exact follow_cons_eq_ok_iff.2 ⟨keeps _ there, next, step, ih followedRest⟩

/-- A way that leads to a directory starts at one. -/
theorem hasDirectory_of_follow (followed : root.follow place parts = .ok goal)
    (there : root.HasDirectory goal) : root.HasDirectory place := by
  cases parts with
  | nil => exact Except.ok.inj followed ▸ there
  | cons part rest => exact (follow_cons_eq_ok_iff.1 followed).1

/-- A path is followed on by a name from the directory that it leads to. -/
theorem follow_push {path next : String} (given : path ≠ "") (name : IsName next)
    (short : next.utf8ByteSize ≤ longestName)
    (followed : root.follow place (PathText.parts path) = .ok base)
    (there : root.HasDirectory base) :
    root.follow place (PathText.parts (PathText.push path next)) = .ok (base ++ [next]) := by
  obtain ⟨front, idle, shape, idles, pushed⟩ := PathText.exists_parts_push given name.whole
  rw [shape] at followed
  obtain ⟨middle, first, second⟩ := follow_append_eq_ok_iff.1 followed
  obtain rfl := follow_idle idles second
  have step : step? base next = some (base ++ [next]) := by
    simp [step?, name.moves, name.descends, Nat.not_lt.2 short]
  rw [pushed]
  exact follow_append_eq_ok_iff.2 ⟨base, first, follow_cons_eq_ok_iff.2 ⟨there, _, step, rfl⟩⟩

/-- A path is followed on by names, all but the last of which lead to directories. -/
theorem follow_foldl_push {path : String} (given : path ≠ "")
    (plain : ∀ name ∈ names, IsName name ∧ name.utf8ByteSize ≤ longestName)
    (followed : root.follow place (PathText.parts path) = .ok base)
    (there : root.HasDirectory (base ++ names.dropLast)) :
    root.follow place (PathText.parts (names.foldl PathText.push path)) = .ok (base ++ names) := by
  induction names generalizing path base with
  | nil => simpa using followed
  | cons next rest ih =>
      obtain ⟨name, short⟩ := plain next List.mem_cons_self
      have pushed := follow_push given name short followed there.of_append
      have later := ih (PathText.push_ne_empty given name.whole)
        (fun other member => plain other (List.mem_cons_of_mem _ member)) pushed
      cases rest with
      | nil => exact pushed
      | cons second others =>
          rw [List.dropLast_cons_cons, List.append_cons] at there
          rw [List.append_cons]
          exact later there

/-! ## Making a way -/

/-- Where a path can be followed to a directory, no way has to be made. -/
theorem makeWay_of_follow (made : Bool) (followed : root.follow place parts = .ok base)
    (there : root.HasDirectory base) (rest : List String) :
    makeWay made place (parts ++ rest) root = makeWay made base rest root := by
  induction parts generalizing place with
  | nil => rw [Except.ok.inj followed, List.nil_append]
  | cons part parts ih =>
      obtain ⟨-, next, step, followedRest⟩ := follow_cons_eq_ok_iff.1 followed
      have nextThere := hasDirectory_of_follow followedRest there
      rw [List.cons_append, makeWay]
      unfold step? at step
      split at step
      · next idle =>
          rw [if_pos idle, ← ih followedRest, Option.some.inj step]
      · next moves =>
          rw [if_neg moves]
          split at step
          · next back => rw [if_pos back, ← ih followedRest, Option.some.inj step]
          · next descends =>
              rw [if_neg descends]
              split at step
              · cases step
              · next short =>
                  obtain rfl := Option.some.inj step
                  rw [if_neg short, show root.readFile (place ++ [part]) = _ from nextThere]
                  exact ih followedRest

/-- Making a way along names from a directory is making the directories at its end. -/
theorem makeWay_names {made : Bool} (plain : ∀ name ∈ names, IsName name)
    (there : root.HasDirectory place)
    (way : makeWay made place names root = .ok (after, goal)) :
    goal = place ++ names ∧ root.makeDirectories (place ++ names) = .ok after ∧
      ∀ name ∈ names, name.utf8ByteSize ≤ longestName := by
  induction names generalizing made place root with
  | nil =>
      simp only [makeWay, Except.ok.injEq, Prod.mk.injEq] at way
      obtain ⟨rfl, rfl⟩ := way
      rw [List.append_nil]
      exact ⟨rfl, makeDirectories_of_hasDirectory there, nofun⟩
  | cons name rest ih =>
      have isName := plain name List.mem_cons_self
      rw [makeWay, if_neg (by simp [isName.moves]), if_neg isName.descends] at way
      split at way
      · cases way
      · next short =>
          have others : ∀ other ∈ rest, IsName other := fun other member =>
            plain other (List.mem_cons_of_mem _ member)
          have shortAll {rests : List String}
              (shorts : ∀ other ∈ rests, other.utf8ByteSize ≤ longestName) :
              ∀ other ∈ name :: rests, other.utf8ByteSize ≤ longestName :=
            List.forall_mem_cons.2 ⟨Nat.not_lt.1 short, shorts⟩
          rw [List.append_cons]
          split at way
          · next present =>
              obtain ⟨rfl, made, shorts⟩ := ih others present way
              exact ⟨rfl, made, shortAll shorts⟩
          · cases way
          · split at way
            · cases way
            · next middle madeFirst =>
                have thereNow : middle.HasDirectory (place ++ [name]) :=
                  (hasDirectory_makeDirectories madeFirst).2 (.inl (List.prefix_refl _))
                obtain ⟨rfl, made, shorts⟩ := ih others thereNow way
                exact ⟨rfl, makeDirectories_append madeFirst made, shortAll shorts⟩

end Tree

/-! ## File systems -/

namespace System

variable {system after : System} {path : String} {base place names : List String}

theorem locate_eq_ok_iff :
    system.locate path = .ok base ↔ refusal? path = none ∧
      system.root.follow (system.start path) (PathText.parts path) = .ok base := by
  unfold locate
  cases refusal? path with
  | some error => simp
  | none => simp

/-- A path that leads somewhere is not empty. -/
theorem ne_empty_of_locate (located : system.locate path = .ok base) : path ≠ "" := by
  rintro rfl
  have accepted := (locate_eq_ok_iff.1 located).1
  revert accepted
  decide +kernel

/-- A path goes on leading where it does as long as directories stay. -/
theorem locate_of_hasDirectory (current : after.current = system.current)
    (keeps : ∀ place, system.root.HasDirectory place → after.root.HasDirectory place)
    (located : system.locate path = .ok base) : after.locate path = .ok base := by
  obtain ⟨accepted, followed⟩ := locate_eq_ok_iff.1 located
  have same : after.start path = system.start path := by rw [start, start, current]
  exact locate_eq_ok_iff.2 ⟨accepted, same ▸ Tree.follow_of_hasDirectory keeps followed⟩

/-- Names lead on from where a path leads, all but the last of them to directories. -/
theorem locate_foldl_push
    (plain : ∀ name ∈ names, IsName name ∧ name.utf8ByteSize ≤ longestName)
    (located : system.locate path = .ok base)
    (there : system.root.HasDirectory (base ++ names.dropLast))
    (accepted : refusal? (names.foldl PathText.push path) = none) :
    system.locate (names.foldl PathText.push path) = .ok (base ++ names) := by
  have given := ne_empty_of_locate located
  have same : system.start (names.foldl PathText.push path) = system.start path := by
    rw [start, start, PathText.isAbsolute_foldl_push given fun name member =>
      (plain name member).1.whole]
  refine locate_eq_ok_iff.2 ⟨accepted, ?_⟩
  rw [same]
  exact Tree.follow_foldl_push given plain (locate_eq_ok_iff.1 located).2 there

/-- Writing a file changes the tree at its place in the directory and nothing else. -/
theorem writeFile_eq_ok_iff {content : String} :
    system.writeFile path place content = .ok after ↔
      refusal? path = none ∧ (PathText.lastName path).utf8ByteSize ≤ longestName ∧
        ∃ root, system.root.writeFile content (place ++ [PathText.lastName path]) = .ok root ∧
          after = { system with root } := by
  unfold writeFile
  cases refusal? path with
  | some error => simp
  | none =>
      dsimp only
      by_cases long : longestName < (PathText.lastName path).utf8ByteSize
      · simp [long, Nat.not_le.2 long]
      · rw [if_neg long]
        simp only [Description.map_eq_ok_iff, true_and]
        simp [Nat.not_lt.1 long, eq_comm]

end System

end VersionedApi.Files
