import VersionedApi.Files.Tree

/-!
# Files and directories at places

What the operations on a tree do is said by place: which place holds a file,
with which content, and which a directory.  Making directories keeps every file,
writing a file changes one place, and neither removes a directory.
-/

namespace VersionedApi.Files

/-! ## Entries -/

theorem putEntry_of_lookup {name : String} {tree : Tree} {entries : List (String × Tree)}
    (found : entries.lookup name = some tree) : putEntry name tree entries = entries := by
  induction entries with
  | nil => cases found
  | cons entry rest ih =>
      obtain ⟨present, old⟩ := entry
      by_cases same : present = name
      · subst same
        obtain rfl : old = tree := by simpa using found
        simp [putEntry]
      · have other : (name == present) = false := by simpa using fun equal => same equal.symm
        rw [List.lookup_cons, other] at found
        simp [putEntry, same, ih found]

theorem putEntry_putEntry (name : String) (first second : Tree) (entries : List (String × Tree)) :
    putEntry name second (putEntry name first entries) = putEntry name second entries := by
  induction entries with
  | nil => simp [putEntry]
  | cons entry rest ih =>
      obtain ⟨present, old⟩ := entry
      by_cases same : present = name
      · simp [putEntry, same]
      · simp [putEntry, same, ih]

theorem mem_names_putEntry {name other : String} {tree : Tree} {entries : List (String × Tree)} :
    other ∈ (putEntry name tree entries).map (·.1) ↔
      other = name ∨ other ∈ entries.map (·.1) := by
  induction entries with
  | nil => simp [putEntry]
  | cons entry rest ih =>
      obtain ⟨present, old⟩ := entry
      by_cases same : present = name
      · simp [putEntry, same]
      · rw [putEntry, if_neg same, List.map_cons, List.mem_cons, ih, List.map_cons, List.mem_cons]
        exact or_left_comm

namespace Tree

variable {root after sub : Tree} {place names other : List String} {content : String}

/-! ## Reading -/

/-- The content of the file at a place, if there is a file. -/
def fileAt? (root : Tree) (place : List String) : Option String :=
  (root.readFile place).toOption

def HasDirectory (root : Tree) (place : List String) : Prop :=
  root.readFile place = .error .isDirectory

@[simp] theorem fileAt?_file_nil : (file content).fileAt? [] = some content := rfl

@[simp] theorem fileAt?_file_cons (name : String) :
    (file content).fileAt? (name :: names) = none := rfl

@[simp] theorem fileAt?_directory_nil (entries : List (String × Tree)) :
    (directory entries).fileAt? [] = none := rfl

@[simp] theorem fileAt?_directory_cons (name : String) (entries : List (String × Tree)) :
    (directory entries).fileAt? (name :: names) =
      (entries.lookup name).bind (·.fileAt? names) := by
  rw [fileAt?, readFile]
  cases entries.lookup name with
  | none => rfl
  | some tree => rfl

@[simp] theorem hasDirectory_file : ¬ (file content).HasDirectory place := by
  cases place with
  | nil => exact nofun
  | cons name names => exact nofun

@[simp] theorem hasDirectory_nil (entries : List (String × Tree)) :
    (directory entries).HasDirectory [] := rfl

@[simp] theorem hasDirectory_cons {name : String} {entries : List (String × Tree)} :
    (directory entries).HasDirectory (name :: names) ↔
      ∃ tree, entries.lookup name = some tree ∧ tree.HasDirectory names := by
  rw [HasDirectory, readFile]
  cases entries.lookup name with
  | none => simp
  | some tree => simp [HasDirectory]

theorem readFile_eq_ok_iff : root.readFile place = .ok content ↔
    root.fileAt? place = some content := by
  rw [fileAt?]
  cases root.readFile place with
  | error error => simp [Except.toOption]
  | ok present => simp [Except.toOption]

/-- The way to a directory leads through directories. -/
theorem HasDirectory.of_append {front rest : List String}
    (there : root.HasDirectory (front ++ rest)) : root.HasDirectory front := by
  induction front generalizing root with
  | nil =>
      cases root with
      | file content => exact absurd there hasDirectory_file
      | directory entries => exact hasDirectory_nil entries
  | cons name names ih =>
      cases root with
      | file content => exact absurd there hasDirectory_file
      | directory entries =>
          obtain ⟨tree, found, deeper⟩ := hasDirectory_cons.1 there
          exact hasDirectory_cons.2 ⟨tree, found, ih deeper⟩

/-- What is at a place has all that is below the place. -/
theorem readFile_append (found : root.at? place = some sub) :
    root.readFile (place ++ names) = sub.readFile names := by
  induction place generalizing root with
  | nil => rw [List.nil_append, Option.some.inj found]
  | cons name rest ih =>
      cases root with
      | file content => cases found
      | directory entries =>
          obtain ⟨tree, present, deeper⟩ := Option.bind_eq_some_iff.1 found
          rw [List.cons_append, readFile, present]
          exact ih deeper

theorem fileAt?_append (found : root.at? place = some sub) :
    root.fileAt? (place ++ names) = sub.fileAt? names := by
  rw [fileAt?, fileAt?, readFile_append found]

theorem hasDirectory_append (found : root.at? place = some sub) :
    root.HasDirectory (place ++ names) ↔ sub.HasDirectory names := by
  rw [HasDirectory, HasDirectory, readFile_append found]

theorem hasDirectory_of_at? {entries : List (String × Tree)}
    (found : root.at? place = some (directory entries)) : root.HasDirectory place := by
  have there := (hasDirectory_append found).2 (hasDirectory_nil entries)
  rwa [List.append_nil] at there

/-! ## Making directories -/

theorem makeDirectories_cons_eq_ok_iff {name : String} :
    root.makeDirectories (name :: names) = .ok after ↔
      ∃ entries tree, root = directory entries ∧
        ((entries.lookup name).getD (directory [])).makeDirectories names = .ok tree ∧
        after = directory (putEntry name tree entries) := by
  cases root with
  | file content => simp [makeDirectories]
  | directory entries =>
      cases made : ((entries.lookup name).getD (directory [])).makeDirectories names with
      | error error => simp [makeDirectories, made, Except.map]
      | ok tree => simp [makeDirectories, made, Except.map, eq_comm]

theorem makeDirectories_nil_eq_ok_iff :
    root.makeDirectories [] = .ok after ↔ root.HasDirectory [] ∧ after = root := by
  cases root with
  | file content => simp [makeDirectories]
  | directory entries => simp [makeDirectories, eq_comm]

/-- What is looked up where directories are made: an empty one if there is nothing. -/
theorem fileAt?_getD_directory (slot : Option Tree) :
    (slot.getD (directory [])).fileAt? place = slot.bind (·.fileAt? place) := by
  cases slot with
  | some tree => rfl
  | none => cases place <;> simp

/-- Making directories keeps every file and adds none. -/
theorem fileAt?_makeDirectories (made : root.makeDirectories place = .ok after) :
    after.fileAt? other = root.fileAt? other := by
  induction place generalizing root after other with
  | nil => rw [(makeDirectories_nil_eq_ok_iff.1 made).2]
  | cons name names ih =>
      obtain ⟨entries, tree, rfl, deeper, rfl⟩ := makeDirectories_cons_eq_ok_iff.1 made
      cases other with
      | nil => rfl
      | cons first rest =>
          rw [fileAt?_directory_cons, fileAt?_directory_cons]
          by_cases same : first = name
          · rw [same, lookup_putEntry_self, Option.bind_some, ih deeper, fileAt?_getD_directory]
          · rw [lookup_putEntry_of_ne _ _ same]

/-- Making directories adds those on the way to the place and keeps all others. -/
theorem hasDirectory_makeDirectories (made : root.makeDirectories place = .ok after) :
    after.HasDirectory other ↔ other <+: place ∨ root.HasDirectory other := by
  induction place generalizing root after other with
  | nil =>
      obtain ⟨there, rfl⟩ := makeDirectories_nil_eq_ok_iff.1 made
      rw [List.prefix_nil]
      exact ⟨.inr, (·.elim (fun empty => empty ▸ there) id)⟩
  | cons name names ih =>
      obtain ⟨entries, tree, rfl, deeper, rfl⟩ := makeDirectories_cons_eq_ok_iff.1 made
      cases other with
      | nil => simp
      | cons first rest =>
          rw [hasDirectory_cons, hasDirectory_cons, List.cons_prefix_cons]
          by_cases same : first = name
          · subst same
            rw [lookup_putEntry_self]
            cases present : entries.lookup first with
            | some old => simpa [present] using ih deeper
            | none =>
                rw [present] at deeper
                cases rest with
                | nil => simp [ih deeper]
                | cons next others => simp [ih deeper]
          · simp [lookup_putEntry_of_ne _ _ same, same]

/-- Where there is a directory none has to be made. -/
theorem makeDirectories_of_hasDirectory (there : root.HasDirectory place) :
    root.makeDirectories place = .ok root := by
  induction place generalizing root with
  | nil => exact makeDirectories_nil_eq_ok_iff.2 ⟨there, rfl⟩
  | cons name names ih =>
      cases root with
      | file content => exact absurd there hasDirectory_file
      | directory entries =>
          obtain ⟨tree, found, deeper⟩ := hasDirectory_cons.1 there
          refine makeDirectories_cons_eq_ok_iff.2 ⟨entries, tree, rfl, ?_, ?_⟩
          · rw [found, Option.getD_some]
            exact ih deeper
          · rw [putEntry_of_lookup found]

/-- Directories may be made one after the other. -/
theorem makeDirectories_append {middle : Tree} {front rest : List String}
    (first : root.makeDirectories front = .ok middle)
    (second : middle.makeDirectories (front ++ rest) = .ok after) :
    root.makeDirectories (front ++ rest) = .ok after := by
  induction front generalizing root middle after with
  | nil => rwa [(makeDirectories_nil_eq_ok_iff.1 first).2] at second
  | cons name names ih =>
      obtain ⟨entries, tree, rfl, deeperFirst, rfl⟩ := makeDirectories_cons_eq_ok_iff.1 first
      obtain ⟨_, grown, shape, deeperSecond, rfl⟩ := makeDirectories_cons_eq_ok_iff.1 second
      obtain rfl := Tree.directory.inj shape
      rw [lookup_putEntry_self, Option.getD_some] at deeperSecond
      refine makeDirectories_cons_eq_ok_iff.2 ⟨entries, grown, rfl, ih deeperFirst deeperSecond, ?_⟩
      rw [putEntry_putEntry]

/-- Making directories below a place makes them in what is at the place. -/
theorem at?_makeDirectories (found : root.at? place = some sub)
    (made : root.makeDirectories (place ++ names) = .ok after) :
    ∃ grown, sub.makeDirectories names = .ok grown ∧ after.at? place = some grown := by
  induction place generalizing root after with
  | nil => exact ⟨after, Option.some.inj found ▸ made, rfl⟩
  | cons name rest ih =>
      obtain ⟨entries, tree, rfl, deeper, rfl⟩ := makeDirectories_cons_eq_ok_iff.1 made
      obtain ⟨present, located, foundDeeper⟩ := Option.bind_eq_some_iff.1 found
      rw [located, Option.getD_some] at deeper
      obtain ⟨grown, madeDeeper, foundGrown⟩ := ih foundDeeper deeper
      exact ⟨grown, madeDeeper, by rw [at?, lookup_putEntry_self, Option.bind_some, foundGrown]⟩

/-! ## Writing files -/

theorem writeFile_nil_eq_ok_iff :
    root.writeFile content [] = .ok after ↔ (∃ old, root = file old) ∧ after = file content := by
  cases root with
  | file old => simp [writeFile, eq_comm]
  | directory entries => simp [writeFile]

theorem writeFile_cons_eq_ok_iff {name : String} :
    root.writeFile content (name :: names) = .ok after ↔
      ∃ entries tree, root = directory entries ∧
        (match entries.lookup name with
          | some old => old.writeFile content names = .ok tree
          | none => names = [] ∧ tree = file content) ∧
        after = directory (putEntry name tree entries) := by
  cases root with
  | file old => simp [writeFile]
  | directory entries =>
      cases present : entries.lookup name with
      | some old =>
          cases written : old.writeFile content names with
          | error error => simp [writeFile, present, written, Except.map]
          | ok tree => simp [writeFile, present, written, Except.map, eq_comm]
      | none =>
          cases names with
          | nil => simp [writeFile, present, Except.map, eq_comm]
          | cons next rest => simp [writeFile, present, Except.map]

/-- Writing a file gives its place the content and keeps every other file. -/
theorem fileAt?_writeFile (written : root.writeFile content place = .ok after) :
    after.fileAt? other = if other = place then some content else root.fileAt? other := by
  induction place generalizing root after other with
  | nil =>
      obtain ⟨⟨old, rfl⟩, rfl⟩ := writeFile_nil_eq_ok_iff.1 written
      cases other with
      | nil => simp
      | cons first rest => simp
  | cons name names ih =>
      obtain ⟨entries, tree, rfl, deeper, rfl⟩ := writeFile_cons_eq_ok_iff.1 written
      cases other with
      | nil => simp
      | cons first rest =>
          rw [fileAt?_directory_cons, fileAt?_directory_cons]
          by_cases same : first = name
          · subst same
            rw [lookup_putEntry_self, Option.bind_some]
            cases present : entries.lookup first with
            | some old =>
                rw [present] at deeper
                simpa using ih deeper
            | none =>
                rw [present] at deeper
                obtain ⟨rfl, rfl⟩ := deeper
                cases rest with
                | nil => simp
                | cons next others => simp
          · simp [lookup_putEntry_of_ne _ _ same, same]

/-- Writing a file keeps every directory and adds none. -/
theorem hasDirectory_writeFile (written : root.writeFile content place = .ok after) :
    after.HasDirectory other ↔ root.HasDirectory other := by
  induction place generalizing root after other with
  | nil =>
      obtain ⟨⟨old, rfl⟩, rfl⟩ := writeFile_nil_eq_ok_iff.1 written
      simp
  | cons name names ih =>
      obtain ⟨entries, tree, rfl, deeper, rfl⟩ := writeFile_cons_eq_ok_iff.1 written
      cases other with
      | nil => simp
      | cons first rest =>
          rw [hasDirectory_cons, hasDirectory_cons]
          by_cases same : first = name
          · subst same
            rw [lookup_putEntry_self]
            cases present : entries.lookup first with
            | some old =>
                rw [present] at deeper
                simpa using ih deeper
            | none =>
                rw [present] at deeper
                obtain ⟨-, rfl⟩ := deeper
                simp
          · rw [lookup_putEntry_of_ne _ _ same]

/-- Writing a file below a place writes it in what is at the place. -/
theorem at?_writeFile {name : String} (found : root.at? place = some sub)
    (written : root.writeFile content (place ++ name :: names) = .ok after) :
    ∃ grown, sub.writeFile content (name :: names) = .ok grown ∧ after.at? place = some grown := by
  induction place generalizing root after with
  | nil => exact ⟨after, Option.some.inj found ▸ written, rfl⟩
  | cons first rest ih =>
      obtain ⟨entries, tree, rfl, deeper, rfl⟩ := writeFile_cons_eq_ok_iff.1 written
      obtain ⟨present, located, foundDeeper⟩ := Option.bind_eq_some_iff.1 found
      rw [located] at deeper
      obtain ⟨grown, writtenDeeper, foundGrown⟩ := ih foundDeeper deeper
      exact ⟨grown, writtenDeeper,
        by rw [at?, lookup_putEntry_self, Option.bind_some, foundGrown]⟩

end Tree

end VersionedApi.Files
