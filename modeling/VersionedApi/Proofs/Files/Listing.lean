import Mathlib.Data.List.Nodup
import VersionedApi.Proofs.Files.Places

/-!
# Listed files

In a tree whose directories give no name twice, the list of files has every
file once.  Making directories and writing files keeps a tree so.
-/

namespace VersionedApi.Files

namespace Tree

mutual

/-- No directory gives two entries one name. -/
def WellNamed : Tree → Prop
  | file _ => True
  | directory entries => EntriesWellNamed entries

def EntriesWellNamed : List (String × Tree) → Prop
  | [] => True
  | (name, tree) :: rest =>
    name ∉ rest.map (·.1) ∧ tree.WellNamed ∧ EntriesWellNamed rest

end

variable {root after tree : Tree} {entries : List (String × Tree)} {place : List String}
  {content : String}

/-! ## Operations -/

theorem EntriesWellNamed.of_lookup {name : String} (wellNamed : EntriesWellNamed entries)
    (found : entries.lookup name = some tree) : tree.WellNamed := by
  induction entries with
  | nil => cases found
  | cons entry rest ih =>
      obtain ⟨present, old⟩ := entry
      obtain ⟨-, first, others⟩ := wellNamed
      rw [List.lookup_cons] at found
      split at found
      · exact Option.some.inj found ▸ first
      · exact ih others found

theorem EntriesWellNamed.putEntry {name : String} (wellNamed : EntriesWellNamed entries)
    (stored : tree.WellNamed) : EntriesWellNamed (putEntry name tree entries) := by
  induction entries with
  | nil => exact ⟨List.not_mem_nil, stored, trivial⟩
  | cons entry rest ih =>
      obtain ⟨present, old⟩ := entry
      obtain ⟨fresh, first, others⟩ := wellNamed
      unfold Files.putEntry
      split
      · exact ⟨fresh, stored, others⟩
      · next different =>
          exact ⟨mem_names_putEntry.not.2 (not_or.2 ⟨different, fresh⟩), first, ih others⟩

theorem WellNamed.getD_lookup {name : String} (wellNamed : EntriesWellNamed entries) :
    ((entries.lookup name).getD (directory [])).WellNamed := by
  cases present : entries.lookup name with
  | none => exact trivial
  | some tree => exact wellNamed.of_lookup present

theorem WellNamed.makeDirectories (wellNamed : root.WellNamed)
    (made : root.makeDirectories place = .ok after) : after.WellNamed := by
  induction place generalizing root after with
  | nil => exact (makeDirectories_nil_eq_ok_iff.1 made).2 ▸ wellNamed
  | cons name names ih =>
      obtain ⟨entries, tree, rfl, deeper, rfl⟩ := makeDirectories_cons_eq_ok_iff.1 made
      exact EntriesWellNamed.putEntry wellNamed (ih (.getD_lookup wellNamed) deeper)

theorem WellNamed.writeFile (wellNamed : root.WellNamed)
    (written : root.writeFile content place = .ok after) : after.WellNamed := by
  induction place generalizing root after with
  | nil =>
      obtain ⟨-, rfl⟩ := writeFile_nil_eq_ok_iff.1 written
      exact trivial
  | cons name names ih =>
      obtain ⟨entries, tree, rfl, deeper, rfl⟩ := writeFile_cons_eq_ok_iff.1 written
      refine EntriesWellNamed.putEntry wellNamed ?_
      cases present : entries.lookup name with
      | none =>
          rw [present] at deeper
          exact deeper.2 ▸ trivial
      | some old =>
          rw [present] at deeper
          exact ih (wellNamed.of_lookup present) deeper

/-! ## The list -/

theorem mem_entryFiles_iff_exists :
    (place, content) ∈ entryFiles entries ↔
      ∃ entry ∈ entries, ∃ names, place = entry.1 :: names ∧
        (names, content) ∈ files entry.2 := by
  induction entries with
  | nil => simp [entryFiles]
  | cons entry rest ih =>
      obtain ⟨name, tree⟩ := entry
      rw [entryFiles, List.mem_append, ih]
      simp only [List.mem_cons, exists_eq_or_imp]
      refine or_congr_left ⟨?_, ?_⟩
      · intro member
        obtain ⟨⟨names, _⟩, listed, same⟩ := List.mem_map.1 member
        cases same
        exact ⟨names, rfl, listed⟩
      · rintro ⟨names, rfl, listed⟩
        exact List.mem_map.2 ⟨(names, content), listed, rfl⟩

mutual

/-- A file is listed with its place and its content. -/
theorem mem_files_iff : {tree : Tree} → {place : List String} → tree.WellNamed →
    ((place, content) ∈ files tree ↔ tree.fileAt? place = some content)
  | file present, place, _ => by
      cases place with
      | nil => simp [files, eq_comm]
      | cons name names => simp [files]
  | directory entries, place, wellNamed => by
      rw [files]
      cases place with
      | nil => simp [mem_entryFiles_iff_exists]
      | cons name names => rw [fileAt?_directory_cons, mem_entryFiles_iff wellNamed]

theorem mem_entryFiles_iff : {entries : List (String × Tree)} → {name : String} →
    {names : List String} → EntriesWellNamed entries →
    ((name :: names, content) ∈ entryFiles entries ↔
      (entries.lookup name).bind (·.fileAt? names) = some content)
  | [], _, _, _ => by simp [entryFiles]
  | (present, tree) :: rest, name, names, wellNamed => by
      obtain ⟨fresh, first, others⟩ := wellNamed
      rw [entryFiles, List.mem_append, mem_entryFiles_iff others, List.lookup_cons]
      by_cases same : name = present
      · subst same
        have absent : rest.lookup name = none :=
          List.lookup_eq_none_iff.2 fun entry member => by
            simpa using fun equal => fresh (List.mem_map.2 ⟨entry, member, equal.symm⟩)
        simp [absent, mem_files_iff first]
      · have different : (name == present) = false := by simpa using same
        simp [different, Ne.symm same]

end

mutual

/-- No place is listed twice. -/
theorem nodup_files : {tree : Tree} → tree.WellNamed → ((files tree).map (·.1)).Nodup
  | file content, _ => by simp [files]
  | directory entries, wellNamed => by
      rw [files]
      exact nodup_entryFiles wellNamed

theorem nodup_entryFiles : {entries : List (String × Tree)} → EntriesWellNamed entries →
    ((entryFiles entries).map (·.1)).Nodup
  | [], _ => by simp [entryFiles]
  | (name, tree) :: rest, wellNamed => by
      obtain ⟨fresh, first, others⟩ := wellNamed
      have front : (((files tree).map fun (names, content) => (name :: names, content)).map
          (·.1)) = ((files tree).map (·.1)).map (name :: ·) := by
        rw [List.map_map, List.map_map]
        rfl
      rw [entryFiles, List.map_append, front, List.nodup_append]
      refine ⟨(nodup_files first).map (List.cons_injective),
        nodup_entryFiles others, ?_⟩
      rintro listed member other memberOther rfl
      obtain ⟨names, -, rfl⟩ := List.mem_map.1 member
      obtain ⟨⟨place, content⟩, listed, same⟩ := List.mem_map.1 memberOther
      obtain ⟨entry, present, _, shape, -⟩ := mem_entryFiles_iff_exists.1 listed
      obtain ⟨rfl, -⟩ := List.cons.inj (same.symm.trans shape)
      exact fresh (List.mem_map_of_mem present)

end

end Tree

end VersionedApi.Files
