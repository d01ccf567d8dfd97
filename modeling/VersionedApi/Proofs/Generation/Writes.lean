import Mathlib.Data.List.Dedup
import VersionedApi.Proofs.Files.Listing
import VersionedApi.Proofs.Files.Parents
import VersionedApi.Proofs.Generation.Accounting

/-!
# Documents that are written

A document that is written changes one file, the one at its place below the
output directory.  Of several documents that go to one place the last stays.
-/

namespace VersionedApi.Generation

open VersionedApi.Document VersionedApi.Files VersionedApi.Model VersionedApi.OpenApi

/-! ## Places of documents -/

namespace DocumentFile

def place (file : DocumentFile) : List String :=
  file.packageNames ++ [file.fileName]

theorem path_eq (file : DocumentFile) : file.path = file.place.foldl PathText.push file.output := by
  rw [place, List.foldl_append]
  rfl

/-- A package and a file name that lead down from any directory. -/
structure Descends (file : DocumentFile) : Prop where
  package : ∀ name ∈ file.packageNames, IsName name
  fileName : IsName file.fileName
  short : file.fileName.utf8ByteSize ≤ longestName

variable {file : DocumentFile} {system after : System}

theorem Descends.whole (descends : file.Descends) : ∀ name ∈ file.packageNames, '/' ∉ name.toList :=
  fun name member => (descends.package name member).whole

theorem Descends.whole_place (descends : file.Descends) :
    ∀ name ∈ file.place, '/' ∉ name.toList := by
  intro name member
  rcases List.mem_append.1 member with inPackage | last
  · exact descends.whole name inPackage
  · rw [List.mem_singleton.1 last]
    exact descends.fileName.whole

/-- A file that leads down from an output directory is in the directory of its package. -/
theorem Descends.directory_eq (descends : file.Descends) (given : file.output ≠ "") :
    file.directory = PathText.below file.output file.packageNames :=
  PathText.parent_push (PathText.foldl_push_ne_empty given descends.whole)
    descends.fileName.whole

theorem Descends.lastName_path (descends : file.Descends) (given : file.output ≠ "") :
    PathText.lastName file.path = file.fileName :=
  PathText.lastName_push (PathText.foldl_push_ne_empty given descends.whole)
    descends.fileName.whole

/-- A document is written by making its directory and putting the file into it. -/
theorem write_eq_ok_iff : file.write system = .ok after ↔
    ∃ middle place, system.makeDirectories file.directory = .ok (middle, place) ∧
      middle.writeFile file.path place file.text = .ok after := by
  unfold write
  cases made : system.makeDirectories file.directory with
  | error cause => simp
  | ok reached =>
      obtain ⟨middle, place⟩ := reached
      dsimp only
      cases written : middle.writeFile file.path place file.text with
      | error cause => simp [written]
      | ok after => simp [written]

end DocumentFile

/-! ## Writing documents -/

/-- What is at a place after documents have been written below a directory, the last one staying. -/
def overlay (base : List String) (files : List DocumentFile) (place : List String)
    (present : Option String) : Option String :=
  files.foldl (fun present file => if place = base ++ file.place then some file.text else present)
    present

theorem overlay_append (base place : List String) (first second : List DocumentFile)
    (present : Option String) : overlay base (first ++ second) place present =
      overlay base second place (overlay base first place present) :=
  List.foldl_append

theorem overlay_of_unlike {base place : List String} {files : List DocumentFile}
    (unlike : ∀ file ∈ files, place ≠ base ++ file.place) (present : Option String) :
    overlay base files place present = present := by
  induction files generalizing present with
  | nil => rfl
  | cons file rest ih =>
      rw [overlay, List.foldl_cons, if_neg (unlike file List.mem_cons_self)]
      exact ih (fun other member => unlike other (List.mem_cons_of_mem _ member)) present

/-- What was at the place of a document before does not matter. -/
theorem overlay_of_like {base place : List String} {files : List DocumentFile}
    (like : ∃ file ∈ files, place = base ++ file.place) (present other : Option String) :
    overlay base files place present = overlay base files place other := by
  induction files generalizing present other with
  | nil => cases like.choose_spec.1
  | cons file rest ih =>
      rw [overlay, overlay, List.foldl_cons, List.foldl_cons]
      by_cases same : place = base ++ file.place
      · rw [if_pos same, if_pos same]
      · rw [if_neg same, if_neg same]
        obtain ⟨written, member, here⟩ := like
        rcases List.mem_cons.1 member with rfl | among
        · exact absurd here same
        · exact ih ⟨written, among, here⟩ present other

theorem isSome_overlay {base place : List String} {files : List DocumentFile}
    {present : Option String} :
    (overlay base files place present).isSome ↔
      present.isSome ∨ ∃ file ∈ files, place = base ++ file.place := by
  induction files generalizing present with
  | nil => simp [overlay]
  | cons file rest ih =>
      rw [overlay, List.foldl_cons, ← overlay, ih]
      by_cases same : place = base ++ file.place
      · simp [same]
      · simp [same]

/-- The last document that goes to a place stays there. -/
theorem overlay_of_last {base : List String} {before later : List DocumentFile}
    {file : DocumentFile} (last : ∀ other ∈ later, other.place ≠ file.place)
    (present : Option String) :
    overlay base (before ++ file :: later) (base ++ file.place) present = some file.text := by
  rw [overlay, List.foldl_append, List.foldl_cons, if_pos rfl]
  refine overlay_of_unlike ?_ _
  intro other member same
  exact last other member (List.append_cancel_left same).symm

structure Wrote (files : List DocumentFile) (base : List String) (before after : System) :
    Prop where
  current : after.current = before.current
  content : ∀ place, after.root.fileAt? place =
    overlay base files place (before.root.fileAt? place)
  directories : ∀ place, before.root.HasDirectory place → after.root.HasDirectory place
  made : ∀ place, after.root.HasDirectory place →
    before.root.HasDirectory place ∨ ∃ file ∈ files, place <+: base ++ file.packageNames
  located : ∀ file ∈ files, after.locate file.path = .ok (base ++ file.place)
  wellNamed : ∀ sub, before.root.at? base = some sub → sub.WellNamed →
    ∃ grown, after.root.at? base = some grown ∧ grown.WellNamed

namespace Wrote

variable {files : List DocumentFile} {base : List String} {before middle after : System}

theorem refl (base : List String) (system : System) : Wrote [] base system system where
  current := rfl
  content _ := rfl
  directories _ := id
  made _ := .inl
  located := nofun
  wellNamed sub found wellNamed := ⟨sub, found, wellNamed⟩

theorem trans {later : List DocumentFile} (first : Wrote files base before middle)
    (second : Wrote later base middle after) : Wrote (files ++ later) base before after := by
  constructor
  · exact second.current.trans first.current
  · intro place
    rw [second.content, first.content, overlay_append]
  · intro place present
    exact second.directories place (first.directories place present)
  · intro place present
    rcases second.made place present with between | ⟨file, member, onWay⟩
    · refine (first.made place between).imp_right ?_
      rintro ⟨file, member, onWay⟩
      exact ⟨file, List.mem_append_left _ member, onWay⟩
    · exact .inr ⟨file, List.mem_append_right _ member, onWay⟩
  · intro file member
    rcases List.mem_append.1 member with early | late
    · exact System.locate_of_hasDirectory second.current second.directories
        (first.located file early)
    · exact second.located file late
  · intro sub found wellNamed
    obtain ⟨grown, foundGrown, wellNamedGrown⟩ := first.wellNamed sub found wellNamed
    exact second.wellNamed grown foundGrown wellNamedGrown

/-- Writing a document changes the file at its place and nothing else. -/
theorem of_write {file : DocumentFile} (descends : file.Descends)
    (located : before.locate file.output = .ok base) (there : before.root.HasDirectory base)
    (writes : file.write before = .ok after) : Wrote [file] base before after := by
  have given := System.ne_empty_of_locate located
  obtain ⟨middle, goal, made, written⟩ := DocumentFile.write_eq_ok_iff.1 writes
  rw [descends.directory_eq given] at made
  obtain ⟨rfl, current, madeTree, shorts⟩ :=
    System.makeDirectories_names descends.package located there made
  obtain ⟨accepted, -, root, writtenTree, rfl⟩ := System.writeFile_eq_ok_iff.1 written
  rw [descends.lastName_path given] at writtenTree
  have directories : ∀ place, root.HasDirectory place ↔
      place <+: base ++ file.packageNames ∨ before.root.HasDirectory place := by
    intro place
    rw [Tree.hasDirectory_writeFile writtenTree, Tree.hasDirectory_makeDirectories madeTree]
  constructor
  · exact current
  · intro place
    rw [Tree.fileAt?_writeFile writtenTree, Tree.fileAt?_makeDirectories madeTree,
      List.append_assoc]
    rfl
  · intro place present
    exact (directories place).2 (.inr present)
  · intro place present
    exact ((directories place).1 present).symm.imp_right fun onWay =>
      ⟨file, List.mem_cons_self, onWay⟩
  · intro other member
    rw [List.mem_singleton.1 member]
    rw [DocumentFile.path_eq] at accepted ⊢
    have outputStays : System.locate ⟨root, middle.current⟩ file.output = .ok base :=
      System.locate_of_hasDirectory current
        (fun place present => (directories place).2 (.inr present)) located
    refine System.locate_foldl_push ?_ outputStays ?_ accepted
    · intro name member
      rcases List.mem_append.1 member with inPackage | last
      · exact ⟨descends.package name inPackage, shorts name inPackage⟩
      · rw [List.mem_singleton.1 last]
        exact ⟨descends.fileName, descends.short⟩
    · rw [DocumentFile.place, List.dropLast_concat]
      exact (directories _).2 (.inl (List.prefix_refl _))
  · intro sub found wellNamed
    obtain ⟨grown, madeSub, foundGrown⟩ := Tree.at?_makeDirectories found madeTree
    -- The file stands below the base, so its place there has a first name.
    obtain ⟨first, rest, shape⟩ := List.exists_cons_of_ne_nil
      (show file.packageNames ++ [file.fileName] ≠ [] by simp)
    rw [List.append_assoc, shape] at writtenTree
    obtain ⟨final, writtenSub, foundFinal⟩ := Tree.at?_writeFile foundGrown writtenTree
    exact ⟨final, foundFinal, (wellNamed.makeDirectories madeSub).writeFile writtenSub⟩

/-- Each document that is written changes the file at its place and nothing else. -/
theorem of_writeAll {output : String}
    (descend : ∀ file ∈ files, file.output = output ∧ file.Descends)
    (located : before.locate output = .ok base) (there : before.root.HasDirectory base)
    (writes : Generator.writeAll files before = .ok after) : Wrote files base before after := by
  induction files generalizing before with
  | nil =>
      obtain rfl := Except.ok.inj writes
      exact refl base before
  | cons file rest ih =>
      obtain ⟨middle, writesFirst, writesRest⟩ := Description.bind_eq_ok_iff.1 writes
      obtain ⟨rfl, descends⟩ := descend file List.mem_cons_self
      have first := of_write descends located there writesFirst
      have others := ih (fun other member => descend other (List.mem_cons_of_mem _ member))
        (System.locate_of_hasDirectory first.current first.directories located)
        (first.directories base there) writesRest
      exact first.trans others

/-- Documents that are written to one output directory go to one path if to one place. -/
theorem path_eq_iff (wrote : Wrote files base before after) {first second : DocumentFile}
    (memberFirst : first ∈ files) (memberSecond : second ∈ files)
    (output : first.output = second.output) :
    first.path = second.path ↔ first.place = second.place := by
  constructor
  · intro same
    have led := wrote.located first memberFirst
    rw [same, wrote.located second memberSecond] at led
    exact (List.append_cancel_left (Except.ok.inj led)).symm
  · intro same
    rw [DocumentFile.path_eq, DocumentFile.path_eq, same, output]

/-- The last document that goes to a path can be read there. -/
theorem readFile_of_last (wrote : Wrote files base before after) {front back : List DocumentFile}
    {file : DocumentFile} (split : files = front ++ file :: back)
    (last : ∀ other ∈ back, other.output = file.output ∧ other.path ≠ file.path) :
    after.readFile file.path = .ok file.text := by
  have here : file ∈ files := split ▸ List.mem_append_right _ List.mem_cons_self
  have lastPlace : ∀ other ∈ back, other.place ≠ file.place := by
    intro other member same
    have there : other ∈ files :=
      split ▸ List.mem_append_right _ (List.mem_cons_of_mem _ member)
    obtain ⟨output, different⟩ := last other member
    exact different ((wrote.path_eq_iff there here output).2 same)
  have content := wrote.content (base ++ file.place)
  rw [split, overlay_of_last lastPlace] at content
  rw [System.readFile, wrote.located file here]
  exact Tree.readFile_eq_ok_iff.2 content

/-- In a directory that was empty the files that are listed are those of the documents. -/
theorem mem_places_iff {grown : Tree} (wrote : Wrote files base before after)
    (empty : before.root.at? base = some (.directory []))
    (found : after.root.at? base = some grown) (wellNamed : grown.WellNamed)
    {names : List String} :
    names ∈ grown.files.map (·.1) ↔ ∃ file ∈ files, names = file.place := by
  have absent : before.root.fileAt? (base ++ names) = none := by
    rw [Tree.fileAt?_append empty]
    cases names with
    | nil => rfl
    | cons name rest => simp
  have present : (grown.fileAt? names).isSome ↔ ∃ file ∈ files, names = file.place := by
    rw [← Tree.fileAt?_append found, wrote.content, absent, isSome_overlay]
    simp
  rw [← present, Option.isSome_iff_exists]
  simp [Tree.mem_files_iff wellNamed]

/-- In a directory that was empty there are as many files as paths that documents go to. -/
theorem length_filesUnder {output : String} (wrote : Wrote files base before after)
    (outputs : ∀ file ∈ files, file.output = output)
    (empty : before.root.at? base = some (.directory [])) :
    (after.filesUnder base).length = (files.map (·.path)).dedup.length := by
  obtain ⟨grown, found, wellNamed⟩ := wrote.wellNamed _ empty trivial
  have listed : after.filesUnder base = grown.files := by rw [System.filesUnder, found]
  have places : ∀ names, names ∈ grown.files.map (·.1) ↔ ∃ file ∈ files, names = file.place :=
    fun _ => wrote.mem_places_iff empty found wellNamed
  have paths : ∀ path, path ∈ (grown.files.map (·.1)).map (·.foldl PathText.push output) ↔
      path ∈ (files.map (·.path)).dedup := by
    intro path
    rw [List.mem_map, List.mem_dedup, List.mem_map]
    constructor
    · rintro ⟨names, member, rfl⟩
      obtain ⟨file, memberFile, rfl⟩ := (places names).1 member
      exact ⟨file, memberFile, by rw [DocumentFile.path_eq, outputs file memberFile]⟩
    · rintro ⟨file, memberFile, rfl⟩
      exact ⟨file.place, (places _).2 ⟨file, memberFile, rfl⟩,
        by rw [DocumentFile.path_eq, outputs file memberFile]⟩
  have distinct : ((grown.files.map (·.1)).map (·.foldl PathText.push output)).Nodup := by
    refine (Tree.nodup_files wellNamed).map_on fun first memberFirst second memberSecond same => ?_
    obtain ⟨firstFile, inFirst, rfl⟩ := (places first).1 memberFirst
    obtain ⟨secondFile, inSecond, rfl⟩ := (places second).1 memberSecond
    refine (wrote.path_eq_iff inFirst inSecond ?_).1 ?_
    · rw [outputs _ inFirst, outputs _ inSecond]
    · rwa [DocumentFile.path_eq, DocumentFile.path_eq, outputs _ inFirst, outputs _ inSecond]
  have alike := (List.perm_ext_iff_of_nodup distinct (List.nodup_dedup _)).2 paths
  rw [listed, ← alike.length_eq, List.length_map, List.length_map]

end Wrote

end VersionedApi.Generation
