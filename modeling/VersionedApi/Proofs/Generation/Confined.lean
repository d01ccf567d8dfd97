import VersionedApi.Proofs.Generation.Stopped

/-!
# Runs stay below the output directory

Whatever the names of a model and however a run ends, the only files that it
changes are documents at the packages of its versions.  The output directory
need not be there: the first document that is written makes it.
-/

namespace VersionedApi.Generation

open VersionedApi.Document VersionedApi.Files VersionedApi.Model VersionedApi.OpenApi

/-! ## Writes -/

namespace DocumentFile

variable {file : DocumentFile} {system after : System}

/-- Writing a document keeps all directories. -/
theorem keeps_of_write (writes : file.write system = .ok after) :
    after.current = system.current ∧
      ∀ other, system.root.HasDirectory other → after.root.HasDirectory other := by
  obtain ⟨middle, place, made, written⟩ := write_eq_ok_iff.1 writes
  obtain ⟨current, -, directories⟩ := System.keeps_of_makeDirectories made
  obtain ⟨-, -, root, writtenTree, rfl⟩ := System.writeFile_eq_ok_iff.1 written
  exact ⟨current, fun other there =>
    (Tree.hasDirectory_writeFile writtenTree).2 (directories other there)⟩

/--
Where a document was written from a file system whose output directory may be
missing, it would have been written just so with the directory being there.
-/
theorem exists_ready (descends : file.Descends) (given : file.output ≠ "")
    (started : system.root.HasDirectory (system.start file.output))
    (writes : file.write system = .ok after) :
    ∃ ready base, ready.locate file.output = .ok base ∧ ready.root.HasDirectory base ∧
      (∀ place, ready.root.fileAt? place = system.root.fileAt? place) ∧
      file.write ready = .ok after := by
  obtain ⟨ready, place, made, written⟩ := write_eq_ok_iff.1 writes
  have accepted : System.refusal? file.output = none := by
    obtain ⟨rest, begun⟩ := PathText.exists_foldl_push_eq_append given descends.whole_place
    refine System.refusal?_of_append given rest ?_
    rw [← begun, ← path_eq]
    exact (System.writeFile_eq_ok_iff.1 written).1
  have madeBelow := made
  rw [descends.directory_eq given] at madeBelow
  obtain ⟨base, located, there⟩ :=
    System.exists_locate_of_makeDirectories given descends.whole started accepted madeBelow
  exact ⟨ready, base, located, there, (System.keeps_of_makeDirectories made).2.1,
    write_eq_ok_iff.2 ⟨ready, place, System.makeDirectories_again made, written⟩⟩

end DocumentFile

namespace Generator

variable {model : ApiModel} {output : String} {format : Format} {system : System}

/-! ## What a run writes -/

theorem keeps_of_writeAll {files : List DocumentFile} {written : System}
    (writes : writeAll files system = .ok written) :
    written.current = system.current ∧
      ∀ other, system.root.HasDirectory other → written.root.HasDirectory other := by
  induction files generalizing system with
  | nil =>
      obtain rfl := Except.ok.inj writes
      exact ⟨rfl, fun _ => id⟩
  | cons file rest ih =>
      obtain ⟨middle, writesFirst, writesRest⟩ := Description.bind_eq_ok_iff.1 writes
      obtain ⟨current, directories⟩ := DocumentFile.keeps_of_write writesFirst
      obtain ⟨currentRest, directoriesRest⟩ := ih writesRest
      exact ⟨currentRest.trans current,
        fun other there => directoriesRest other (directories other there)⟩

/-- Only a write makes the writing of a document fail. -/
theorem exists_of_write_eq_error {file : DocumentFile} {failure : Failure}
    (fails : file.write system = .error failure) : ∃ path cause, failure = .write path cause := by
  unfold DocumentFile.write at fails
  split at fails
  · exact ⟨_, _, (Except.error.inj fails).symm⟩
  · split at fails
    · exact ⟨_, _, (Except.error.inj fails).symm⟩
    · cases fails

/--
However a run ends, it has written the documents of the versions up to some
point, which is the last of them unless a write failed.
-/
theorem exists_writeAll_of_run (model : ApiModel) (earlier : List String) (output : String)
    (format : Format) (system : System) :
    ∃ done middle, done <+: model.versions ∧
      writeAll (done.map (documentFile output format)) system = .ok middle ∧
      let run := (standard model earlier output format).run system
      run.system.current = middle.current ∧
      (∀ place, run.system.root.fileAt? place = middle.root.fileAt? place) ∧
      (∀ place, middle.root.HasDirectory place → run.system.root.HasDirectory place) ∧
      (done = model.versions ∨ ∃ path cause, run.failure = some (.write path cause)) := by
  rcases writeAll_cases ((standard model earlier output format).files model.versions) system with
    ⟨written, writes⟩ | ⟨before, file, later, middle, failure, split, writes, fails⟩
  · refine ⟨model.versions, written, List.prefix_refl _, writes, ?_⟩
    rw [run_of_writes writes]
    exact ⟨rfl, fun _ => rfl, fun _ => id, .inl rfl⟩
  · obtain ⟨done, rest, versions, rfl, shape⟩ := List.map_eq_append_iff.1 split
    obtain ⟨version, others, rfl, rfl, rfl⟩ := List.map_eq_cons_iff.1 shape
    obtain ⟨path, cause, rfl⟩ := exists_of_write_eq_error fails
    refine ⟨done, middle, ⟨_, versions.symm⟩, writes, ?_⟩
    rw [run_of_failure versions writes fails]
    obtain ⟨current, files, directories⟩ := System.keeps_beginDirectories middle _
    exact ⟨current, files, directories, .inr ⟨path, cause, rfl⟩⟩

/-- A place that a version's document has below the output directory. -/
theorem place_documentFile (output : String) (format : Format) {version : Version}
    (service : version.service.Spelled) (name : version.name.Spelled) :
    let parts := PathText.names (Packaging.standard.package version)
    (documentFile output format version).place = parts ++ ["openapi." ++ format.extension] ∧
      parts.length ≤ 2 ∧
      ∀ part ∈ parts, part ≠ "" ∧ part ≠ "." ∧ part ≠ ".." ∧ '/' ∉ part.toList ∧
        Char.ofNat 0 ∉ part.toList := by
  intro parts
  have descends := descends_documentFile output format service name
  refine ⟨?_, ?_, ?_⟩
  · cases format <;> rfl
  · rw [show parts = packageNames version from names_package service name]
    exact List.length_filter_le _ _
  · intro part member
    have isName := descends.package part member
    have moves := isName.moves
    simp only [PathText.isIdle, Bool.or_eq_false_iff, decide_eq_false_iff_not] at moves
    exact ⟨moves.1, moves.2, isName.descends, isName.whole,
      not_mem_packageNames output format service name (by decide)
        (by decide) part member⟩

/--
A run for a loaded model changes no file but the documents of its versions, each
below the output directory in at most two directories that are named after the
version and never lead elsewhere.  This holds of every file system with a
directory to start from, and of runs that fail as well.
-/
theorem run_standard_confined {description : Description.ModelDescription}
    (loaded : description.load = .ok model) (earlier : List String) (given : output ≠ "")
    (format : Format) (started : system.root.HasDirectory (system.start output)) :
    let after := ((standard model earlier output format).run system).system
    (∀ base, system.locate output = .ok base → after.locate output = .ok base) ∧
    ∀ place, after.root.fileAt? place ≠ system.root.fileAt? place →
      ∃ base, after.locate output = .ok base ∧ ∃ version ∈ model.versions,
        let parts := PathText.names (Packaging.standard.package version)
        place = base ++ parts ++ ["openapi." ++ format.extension] ∧ parts.length ≤ 2 ∧
          ∀ part ∈ parts, part ≠ "" ∧ part ≠ "." ∧ part ≠ ".." ∧ '/' ∉ part.toList ∧
            Char.ofNat 0 ∉ part.toList := by
  intro after
  obtain ⟨done, middle, among, writes, current, files, directories, -⟩ :=
    exists_writeAll_of_run model earlier output format system
  constructor
  · intro base located
    obtain ⟨currentMiddle, directoriesMiddle⟩ := keeps_of_writeAll writes
    exact System.locate_of_hasDirectory (current.trans currentMiddle)
      (fun place there => directories place (directoriesMiddle place there)) located
  · intro place changed
    have spelled : Spelled done := fun version member =>
      spelled_of_load loaded (among.subset member)
    rw [show after.root.fileAt? place = _ from files place] at changed
    cases done with
    | nil =>
        obtain rfl := Except.ok.inj writes
        exact absurd rfl changed
    | cons first rest =>
        obtain ⟨service, name⟩ := spelled first List.mem_cons_self
        obtain ⟨next, writesFirst, writesRest⟩ := Description.bind_eq_ok_iff.1 writes
        obtain ⟨ready, base, located, there, same, again⟩ := DocumentFile.exists_ready
          (descends_documentFile output format service name) given started writesFirst
        have wrote := wrote_of_writeAll spelled located there
          (Description.bind_eq_ok_iff.2 ⟨next, again, writesRest⟩)
        have locatedAfter : after.locate output = .ok base :=
          System.locate_of_hasDirectory (current.trans wrote.current)
            (fun place there => directories place (wrote.directories place there)) located
        rw [wrote.content, same] at changed
        obtain ⟨file, member, rfl⟩ : ∃ file ∈ (first :: rest).map (documentFile output format),
            place = base ++ file.place := by
          by_contra unlike
          exact changed (overlay_of_unlike (fun file member same => unlike ⟨file, member, same⟩) _)
        obtain ⟨version, written, rfl⟩ := List.mem_map.1 member
        obtain ⟨shape, short, plain⟩ := place_documentFile output format
          (spelled version written).1 (spelled version written).2
        exact ⟨base, locatedAfter, version, among.subset written,
          by rw [shape, List.append_assoc], short, plain⟩

/-- Names that would lead out of a directory if they were taken as they are. -/
def hostile : Description.ModelDescription where
  services := [
    { name := "../../etc", versions := [{ name := "/passwd" }, { name := ".." }] },
    { name := "", versions := [{ name := "" }] }]

/-- A file that is not to be touched, next to an output directory. -/
def exposed : System :=
  ⟨.directory [
    ("etc", .directory [("passwd", .file "root")]), ("out", .directory [])], []⟩

theorem run_standard_confined_hostile : ∃ model, hostile.load = .ok model ∧
    model.versions.length = 3 ∧ "out" ≠ "" ∧ exposed.root.HasDirectory (exposed.start "out") ∧
    ((standard model [] "out" .yaml).run exposed).system.root.fileAt? ["etc", "passwd"] =
      some "root" := by
  have accepted : hostile.load.toOption.any fun model => model.versions.length == 3 := by
    decide +kernel
  obtain ⟨model, loaded, three⟩ := Description.exists_eq_ok_of_any accepted
  have located : exposed.locate "out" = .ok ["out"] := by
    decide +kernel
  have given : "out" ≠ "" := by decide
  have started : exposed.root.HasDirectory (exposed.start "out") := rfl
  obtain ⟨kept, confined⟩ := run_standard_confined loaded [] given .yaml started
  refine ⟨model, loaded, eq_of_beq three, given, started, ?_⟩
  by_contra changed
  obtain ⟨base, leads, version, -, place, -⟩ := confined ["etc", "passwd"] changed
  obtain rfl := Except.ok.inj ((kept _ located).symm.trans leads)
  simp at place

end Generator

end VersionedApi.Generation
