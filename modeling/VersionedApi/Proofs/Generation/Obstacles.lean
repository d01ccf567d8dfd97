import Mathlib.Data.List.Infix
import VersionedApi.Proofs.Generation.Writes

/-!
# Obstacles to documents

Below an output directory that is there, a document is stopped by what is on
the way of its package or by a directory in its place.  No other document of the
run is such an obstacle, nor are the directories made for it: the names of
packages hold no dot, and those of documents do.
-/

namespace VersionedApi.Generation

open VersionedApi.Document VersionedApi.Files VersionedApi.Model VersionedApi.OpenApi

namespace DocumentFile

/-- A document below an output directory that is never on the way to another. -/
structure Orderly (output : String) (file : DocumentFile) : Prop where
  output : file.output = output
  descends : file.Descends
  dotless : ∀ name ∈ file.packageNames, '.' ∉ name.toList
  dotted : '.' ∈ file.fileName.toList

variable {file other : DocumentFile} {output path : String} {base : List String}
  {system before after : System}

/-! ## What stops a document -/

/-- The directory of a document is out of reach for its path, for a long name or for a file. -/
def Barred (base : List String) (system : System) (file : DocumentFile) : Prop :=
  System.refusal? file.directory ≠ none ∨
    (∃ name ∈ file.packageNames, longestName < name.utf8ByteSize) ∨
    ∃ front, front <+: file.packageNames ∧ (system.root.fileAt? (base ++ front)).isSome

/-- A document has no place in its directory for its path or for a directory of its name. -/
def Displaced (base : List String) (system : System) (file : DocumentFile) : Prop :=
  System.refusal? file.path ≠ none ∨ system.root.HasDirectory (base ++ file.place)

/-- A document cannot be written, and the path that a failure names. -/
inductive Stops (base : List String) (system : System) (file : DocumentFile) : String → Prop where
  | onTheWay (barred : file.Barred base system) : Stops base system file file.directory
  | inItsPlace (reached : ¬ file.Barred base system) (displaced : file.Displaced base system) :
      Stops base system file file.path

theorem not_barred_iff : ¬ file.Barred base system ↔
    System.refusal? file.directory = none ∧
      (∀ name ∈ file.packageNames, name.utf8ByteSize ≤ longestName) ∧
      ∀ front, front <+: file.packageNames → system.root.fileAt? (base ++ front) = none := by
  unfold Barred
  simp

theorem not_displaced_iff : ¬ file.Displaced base system ↔
    System.refusal? file.path = none ∧ ¬ system.root.HasDirectory (base ++ file.place) := by
  unfold Displaced
  rw [not_or, not_ne_iff]

/-- A document that nothing stops is neither barred nor displaced. -/
theorem clear_iff : (∀ path, ¬ file.Stops base system path) ↔
    ¬ file.Barred base system ∧ ¬ file.Displaced base system := by
  constructor
  · intro clear
    have reached : ¬ file.Barred base system := fun barred => clear _ (.onTheWay barred)
    exact ⟨reached, fun displaced => clear _ (.inItsPlace reached displaced)⟩
  · rintro ⟨reached, placed⟩ path stops
    cases stops with
    | onTheWay barred => exact reached barred
    | inItsPlace _ displaced => exact placed displaced

/-- The directory of a document is made unless the document is barred. -/
theorem makeDirectories_iff_not_barred (descends : file.Descends)
    (located : system.locate file.output = .ok base) (there : system.root.HasDirectory base) :
    (∃ after place, system.makeDirectories file.directory = .ok (after, place)) ↔
      ¬ file.Barred base system := by
  rw [not_barred_iff, descends.directory_eq (System.ne_empty_of_locate located)]
  exact System.makeDirectories_iff descends.package located there

/-- Making the directory of a document makes none in its place. -/
theorem hasDirectory_place_iff {middle : Tree}
    (made : system.root.makeDirectories (base ++ file.packageNames) = .ok middle) :
    middle.HasDirectory (base ++ file.place) ↔ system.root.HasDirectory (base ++ file.place) := by
  rw [Tree.hasDirectory_makeDirectories made]
  refine or_iff_right fun onWay => ?_
  have short := onWay.length_le
  simp only [place, List.length_append, List.length_singleton] at short
  omega

/-- In a directory that was made the document is written unless it is displaced. -/
theorem writeFile_iff_not_displaced {middle : System} {place : List String}
    (descends : file.Descends) (located : system.locate file.output = .ok base)
    (there : system.root.HasDirectory base)
    (made : system.makeDirectories file.directory = .ok (middle, place)) :
    (∃ after, middle.writeFile file.path place file.text = .ok after) ↔
      ¬ file.Displaced base system := by
  have given := System.ne_empty_of_locate located
  rw [descends.directory_eq given] at made
  obtain ⟨rfl, -, madeTree, -⟩ :=
    System.makeDirectories_names descends.package located there made
  have thereNow := (Tree.hasDirectory_makeDirectories madeTree).2 (.inl (List.prefix_refl _))
  rw [not_displaced_iff, ← hasDirectory_place_iff madeTree, DocumentFile.place, ← List.append_assoc,
    ← Tree.writeFile_name_iff file.text thereNow]
  simp only [System.writeFile_eq_ok_iff, descends.lastName_path given]
  constructor
  · rintro ⟨after, accepted, -, root, written, -⟩
    exact ⟨accepted, root, written⟩
  · rintro ⟨accepted, root, written⟩
    exact ⟨_, accepted, descends.short, root, written, rfl⟩

/-- What stops a document makes its write fail with the path. -/
theorem write_of_stops (descends : file.Descends)
    (located : system.locate file.output = .ok base) (there : system.root.HasDirectory base)
    (stops : file.Stops base system path) :
    ∃ cause, file.write system = .error (.write path cause) := by
  unfold write
  have reaches := makeDirectories_iff_not_barred descends located there
  cases stops with
  | onTheWay barred =>
      cases made : system.makeDirectories file.directory with
      | error cause => exact ⟨cause, rfl⟩
      | ok reached => exact absurd barred (reaches.1 ⟨_, _, made⟩)
  | inItsPlace reached displaced =>
      obtain ⟨middle, place, made⟩ := reaches.2 reached
      rw [made]
      dsimp only
      have writes := writeFile_iff_not_displaced descends located there made
      cases written : middle.writeFile file.path place file.text with
      | error cause => exact ⟨cause, rfl⟩
      | ok after => exact absurd displaced (writes.1 ⟨_, written⟩)

/-- A document that nothing stops is written. -/
theorem write_of_clear (descends : file.Descends)
    (located : system.locate file.output = .ok base) (there : system.root.HasDirectory base)
    (clear : ∀ path, ¬ file.Stops base system path) : ∃ after, file.write system = .ok after := by
  obtain ⟨reached, placed⟩ := clear_iff.1 clear
  obtain ⟨middle, place, made⟩ :=
    (makeDirectories_iff_not_barred descends located there).2 reached
  obtain ⟨after, written⟩ := (writeFile_iff_not_displaced descends located there made).2 placed
  exact ⟨after, write_eq_ok_iff.2 ⟨middle, place, made, written⟩⟩

/-! ## Obstacles stay as they are -/

theorem Stops.congr (barred : file.Barred base before ↔ file.Barred base after)
    (displaced : file.Displaced base before ↔ file.Displaced base after)
    (stops : file.Stops base before path) : file.Stops base after path := by
  cases stops with
  | onTheWay isBarred => exact .onTheWay (barred.1 isBarred)
  | inItsPlace reached isDisplaced =>
      exact .inItsPlace (barred.not.1 reached) (displaced.1 isDisplaced)

/-- Two file systems hold the same obstacles to a document. -/
theorem stops_congr
    (files : ∀ front, front <+: file.packageNames →
      after.root.fileAt? (base ++ front) = before.root.fileAt? (base ++ front))
    (directory : after.root.HasDirectory (base ++ file.place) ↔
      before.root.HasDirectory (base ++ file.place)) :
    file.Stops base after path ↔ file.Stops base before path := by
  have barred : file.Barred base after ↔ file.Barred base before := by
    rw [← not_iff_not, not_barred_iff, not_barred_iff]
    refine and_congr_right' (and_congr_right' (forall₂_congr fun front begins => ?_))
    rw [files front begins]
  have displaced : file.Displaced base after ↔ file.Displaced base before :=
    or_congr_right directory
  exact ⟨.congr barred displaced, .congr barred.symm displaced.symm⟩

/-- No document is on the way to another. -/
theorem Orderly.not_onTheWay (orderly : file.Orderly output) (others : other.Orderly output) :
    ¬ file.place <+: other.packageNames := by
  intro onWay
  have member : file.fileName ∈ other.packageNames :=
    onWay.subset (List.mem_append_right _ List.mem_cons_self)
  exact others.dotless _ member orderly.dotted

/-- Documents that are written are no obstacles to one that was not. -/
theorem stops_iff_of_wrote {files : List DocumentFile}
    (orderlies : ∀ written ∈ files, written.Orderly output) (orderly : file.Orderly output)
    (wrote : Wrote files base before after) :
    file.Stops base after path ↔ file.Stops base before path := by
  refine stops_congr ?_ ⟨fun there => ?_, wrote.directories _⟩
  · intro front begins
    rw [wrote.content]
    refine overlay_of_unlike (fun written member same => ?_) _
    rw [List.append_right_inj] at same
    exact (orderlies written member).not_onTheWay orderly (same ▸ begins)
  · refine (wrote.made _ there).resolve_right ?_
    rintro ⟨written, member, onWay⟩
    exact orderly.not_onTheWay (orderlies written member)
      ((List.prefix_append_right_inj base).1 onWay)

/-- The directories that a failed write leaves are no obstacles. -/
theorem stops_iff_of_abandon (orderlyOther : other.Orderly output) (orderly : file.Orderly output)
    (located : system.locate output = .ok base) (there : system.root.HasDirectory base) :
    file.Stops base (other.abandon system) path ↔ file.Stops base system path := by
  obtain ⟨-, files, directories⟩ :=
    System.keeps_beginDirectories system other.directory
  have descends := orderlyOther.descends
  have locatedOther : system.locate other.output = .ok base := by rwa [orderlyOther.output]
  unfold abandon
  refine stops_congr (fun front _ => files _) ⟨fun thereNow => ?_, directories _⟩
  rw [descends.directory_eq (System.ne_empty_of_locate locatedOther)] at thereNow
  refine (System.hasDirectory_of_beginDirectories descends.package locatedOther there
    thereNow).resolve_right fun onWay => ?_
  exact orderly.not_onTheWay orderlyOther ((List.prefix_append_right_inj base).1 onWay)

/-- Documents that nothing stops are all written. -/
theorem exists_writeAll_of_clear {files : List DocumentFile}
    (orderlies : ∀ file ∈ files, file.Orderly output) (located : system.locate output = .ok base)
    (there : system.root.HasDirectory base)
    (clear : ∀ file ∈ files, ∀ path, ¬ file.Stops base system path) :
    ∃ after, Generator.writeAll files system = .ok after := by
  induction files generalizing system with
  | nil => exact ⟨system, rfl⟩
  | cons file rest ih =>
      have orderly := orderlies file List.mem_cons_self
      have locatedFile : system.locate file.output = .ok base := by rwa [orderly.output]
      obtain ⟨middle, writes⟩ :=
        write_of_clear orderly.descends locatedFile there (clear file List.mem_cons_self)
      have wrote := Wrote.of_write orderly.descends locatedFile there writes
      have first : ∀ written ∈ [file], written.Orderly output := by simpa using orderly
      obtain ⟨after, others⟩ := ih
        (fun other member => orderlies other (List.mem_cons_of_mem _ member))
        (System.locate_of_hasDirectory wrote.current wrote.directories located)
        (wrote.directories base there)
        (fun other member path stops => clear other (List.mem_cons_of_mem _ member) path
          ((stops_iff_of_wrote first (orderlies other (List.mem_cons_of_mem _ member)) wrote).1
            stops))
      exact ⟨after, Description.bind_eq_ok_iff.2 ⟨middle, writes, others⟩⟩

/-! ## Obstacles to a document that fits -/

/-- The path of a document and the names in it are no longer than paths and names may be. -/
structure Fits (file : DocumentFile) : Prop where
  names : ∀ name ∈ file.packageNames, name.utf8ByteSize ≤ longestName
  path : file.path.utf8ByteSize ≤ longestPath

instance : Decidable file.Fits :=
  decidable_of_iff ((∀ name ∈ file.packageNames, name.utf8ByteSize ≤ longestName) ∧
      file.path.utf8ByteSize ≤ longestPath)
    ⟨fun ⟨names, path⟩ => ⟨names, path⟩, fun fits => ⟨fits.names, fits.path⟩⟩

/-- A file stands where the package of a document has a directory. -/
def FileOnTheWay (base : List String) (system : System) (file : DocumentFile) : Prop :=
  ∃ front, front ≠ [] ∧ front <+: file.packageNames ∧
    (system.root.fileAt? (base ++ front)).isSome

/-- A directory stands where a document goes. -/
def DirectoryInPlace (base : List String) (system : System) (file : DocumentFile) : Prop :=
  system.root.HasDirectory (base ++ file.place)

/-- The path of a document that fits is accepted, and so is that of its directory. -/
theorem Fits.accepted (fits : file.Fits) (descends : file.Descends)
    (located : system.locate file.output = .ok base)
    (plain : ∀ name ∈ file.place, Char.ofNat 0 ∉ name.toList) :
    System.refusal? file.path = none ∧ System.refusal? file.directory = none := by
  have given := System.ne_empty_of_locate located
  obtain ⟨output, -, -⟩ := System.refusal?_eq_none_iff.1 (System.locate_eq_ok_iff.1 located).1
  have inner := PathText.foldl_push_ne_empty given descends.whole
  obtain ⟨ending, continued⟩ := PathText.exists_push_eq_append inner descends.fileName.whole
  obtain ⟨rest, trimmed⟩ :=
    PathText.exists_eq_trimEnd_append (file.packageNames.foldl PathText.push file.output)
  have path : System.refusal? file.path = none := by
    refine System.refusal?_eq_none_iff.2 ⟨?_, ?_, fits.path⟩
    · intro zero
      rw [path_eq] at zero
      rcases PathText.mem_foldl_push zero with early | slash | ⟨name, member, inside⟩
      · exact output early
      · revert slash
        decide
      · exact plain name member inside
    · unfold DocumentFile.path
      rw [continued]
      simp [inner]
  refine ⟨path, ?_⟩
  rw [descends.directory_eq given]
  refine System.refusal?_of_append (PathText.trimEnd_ne_empty inner) rest ?_
  rw [PathText.below, ← trimmed]
  refine System.refusal?_of_append inner ending ?_
  rw [← continued]
  exact path

theorem Fits.barred_iff (fits : file.Fits) (accepted : System.refusal? file.directory = none)
    (there : system.root.HasDirectory base) :
    file.Barred base system ↔ file.FileOnTheWay base system := by
  unfold Barred FileOnTheWay
  constructor
  · rintro (refused | ⟨name, member, long⟩ | ⟨front, begins, present⟩)
    · exact absurd accepted refused
    · exact absurd long (Nat.not_lt.2 (fits.names name member))
    · refine ⟨front, ?_, begins, present⟩
      rintro rfl
      rw [List.append_nil, Tree.fileAt?_eq_none_of_hasDirectory there] at present
      cases present
  · rintro ⟨front, -, begins, present⟩
    exact .inr (.inr ⟨front, begins, present⟩)

theorem displaced_iff (base : List String) (system : System)
    (accepted : System.refusal? file.path = none) :
    file.Displaced base system ↔ file.DirectoryInPlace base system :=
  or_iff_right (not_not_intro accepted)

/-- A document in whose place there is a directory has no file on its way. -/
theorem not_fileOnTheWay_of_directoryInPlace (inPlace : file.DirectoryInPlace base system) :
    ¬ file.FileOnTheWay base system := by
  rintro ⟨front, -, ⟨rest, whole⟩, present⟩
  have there : system.root.HasDirectory (base ++ front ++ (rest ++ [file.fileName])) := by
    have shape : base ++ file.place = base ++ front ++ (rest ++ [file.fileName]) := by
      simp [place, ← whole]
    exact shape ▸ inPlace
  rw [Tree.fileAt?_eq_none_of_hasDirectory there.of_append] at present
  cases present

/-- A document that fits is stopped by a file on its way or by a directory in its place. -/
theorem Fits.stops_iff (fits : file.Fits) (descends : file.Descends)
    (located : system.locate file.output = .ok base) (there : system.root.HasDirectory base)
    (plain : ∀ name ∈ file.place, Char.ofNat 0 ∉ name.toList) {path : String} :
    file.Stops base system path ↔
      file.FileOnTheWay base system ∧ path = file.directory ∨
        file.DirectoryInPlace base system ∧ path = file.path := by
  obtain ⟨acceptedPath, acceptedDirectory⟩ := fits.accepted descends located plain
  have barred := fits.barred_iff acceptedDirectory there
  have displaced := displaced_iff base system acceptedPath
  constructor
  · intro stops
    cases stops with
    | onTheWay isBarred => exact .inl ⟨barred.1 isBarred, rfl⟩
    | inItsPlace _ isDisplaced => exact .inr ⟨displaced.1 isDisplaced, rfl⟩
  · rintro (⟨onTheWay, rfl⟩ | ⟨inPlace, rfl⟩)
    · exact .onTheWay (barred.2 onTheWay)
    · exact .inItsPlace (barred.not.2 (not_fileOnTheWay_of_directoryInPlace inPlace))
        (displaced.2 inPlace)

end DocumentFile

end VersionedApi.Generation
