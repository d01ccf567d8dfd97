import VersionedApi.Proofs.Generation.Kept

/-!
# Runs that are stopped

What stops a run below an output directory that is there can be told before it
starts: it is the first version whose document meets an obstacle.  The documents
of the versions before it are kept and nothing else is written.
-/

namespace VersionedApi.Generation

open VersionedApi.Document VersionedApi.Files VersionedApi.Model VersionedApi.OpenApi

namespace Generator

variable {model : ApiModel} {output path : String} {format : Format} {version : Version}
  {system : System} {base : List String}

/-! ## The version that stops a run -/

/-- The first of some versions of a kind stands behind others that are of another. -/
theorem exists_first {versions : List Version} {kind : Version → Prop}
    (found : ∃ version ∈ versions, kind version) :
    ∃ before version later, versions = before ++ version :: later ∧ kind version ∧
      ∀ other ∈ before, ¬ kind other := by
  classical
  have present : (versions.find? fun version => decide (kind version)).isSome := by
    rw [List.find?_isSome]
    simpa using found
  obtain ⟨version, among⟩ := Option.isSome_iff_exists.1 present
  obtain ⟨holds, before, later, split, others⟩ := List.find?_eq_some_iff_append.1 among
  exact ⟨before, version, later, split, of_decide_eq_true holds, by simpa using others⟩

/-- A run ends at the first version whose document is stopped. -/
theorem run_of_stops {before later : List Version} (spelled : Spelled model.versions)
    (located : system.locate output = .ok base) (there : system.root.HasDirectory base)
    (split : model.versions = before ++ version :: later)
    (clear : ∀ other ∈ before, ∀ path,
      ¬ (documentFile output format other).Stops base system path)
    (stops : (documentFile output format version).Stops base system path)
    (earlier : List String) :
    ∃ middle cause,
      Wrote (before.map (documentFile output format)) base system middle ∧
      (standard model earlier output format).run system =
        ⟨(standard model earlier output format).reporting
            ((standard model earlier output format).messages (before ++ [version])),
          (documentFile output format version).abandon middle, some (.write path cause)⟩ := by
  have spelledBefore : Spelled before := fun other member =>
    spelled other (split ▸ List.mem_append_left _ member)
  obtain ⟨service, name⟩ := spelled version
    (split ▸ List.mem_append_right _ List.mem_cons_self)
  have orderly := orderly_documentFile output format service name
  have orderlies := orderly_of_spelled output format spelledBefore
  obtain ⟨middle, writes⟩ := DocumentFile.exists_writeAll_of_clear orderlies located there
    (by simpa using clear)
  have wrote := wrote_of_writeAll spelledBefore located there writes
  obtain ⟨cause, fails⟩ := DocumentFile.write_of_stops orderly.descends
    (System.locate_of_hasDirectory wrote.current wrote.directories located)
    (wrote.directories base there)
    ((DocumentFile.stops_iff_of_wrote orderlies orderly wrote).2 stops)
  exact ⟨middle, cause, wrote, run_of_failure split writes fails⟩

/-- A run in which no document is stopped writes them all. -/
theorem run_of_clear (spelled : Spelled model.versions)
    (located : system.locate output = .ok base) (there : system.root.HasDirectory base)
    (clear : ∀ version ∈ model.versions, ∀ path,
      ¬ (documentFile output format version).Stops base system path) (earlier : List String) :
    ∃ written, Wrote (model.versions.map (documentFile output format)) base system written ∧
      (standard model earlier output format).run system =
        ⟨(standard model earlier output format).reporting
            ((standard model earlier output format).messages model.versions), written,
          endOfCount ((standard model earlier output format).messages model.versions).length⟩ := by
  obtain ⟨written, writes⟩ := DocumentFile.exists_writeAll_of_clear
    (orderly_of_spelled output format spelled) located there
    (by simpa using clear)
  exact ⟨written, wrote_of_writeAll spelled located there writes, run_of_writes writes⟩

end Generator

/-! ## Obstacles in the initial directory -/

namespace Generator

variable {model : ApiModel} {output path : String} {format : Format} {system : System}
  {base : List String}

def Obstructed (output : String) (format : Format) (base : List String) (system : System)
    (version : Version) : Prop :=
  (documentFile output format version).FileOnTheWay base system ∨
    (documentFile output format version).DirectoryInPlace base system

/-- What a run that is stopped leaves: the documents before, and no other change of a file. -/
theorem files_abandon {before : List Version} {middle : System} (version : Version)
    (wrote : Wrote (before.map (documentFile output format)) base system middle) :
    let after := (documentFile output format version).abandon middle
    (∀ front kept back, before = front ++ kept :: back →
      (∀ other ∈ back,
        (documentFile output format other).path ≠ (documentFile output format kept).path) →
      after.readFile (documentFile output format kept).path =
        .ok (documentFile output format kept).text) ∧
    ∀ place, (∀ other ∈ before, place ≠ base ++ (documentFile output format other).place) →
      after.root.fileAt? place = system.root.fileAt? place := by
  intro after
  obtain ⟨current, files, directories⟩ := System.keeps_beginDirectories middle
    (documentFile output format version).directory
  constructor
  · intro front kept back split last
    have read := wrote.readFile_of_last
      (show before.map (documentFile output format) = _ by
        rw [split, List.map_append, List.map_cons]) (by
        intro other member
        obtain ⟨otherVersion, listed, rfl⟩ := List.mem_map.1 member
        exact ⟨rfl, last otherVersion listed⟩)
    obtain ⟨place, located, content⟩ := Description.bind_eq_ok_iff.1 read
    refine Description.bind_eq_ok_iff.2
      ⟨place, System.locate_of_hasDirectory current directories located, ?_⟩
    rw [Tree.readFile_eq_ok_iff] at content ⊢
    exact (files place).trans content
  · intro place unlike
    refine (files place).trans ?_
    rw [wrote.content]
    exact overlay_of_unlike (by simpa using unlike) _

section Obstructed

variable (spelled : Spelled model.versions) (located : system.locate output = .ok base)
  (there : system.root.HasDirectory base)
  (fits : ∀ version ∈ model.versions, (documentFile output format version).Fits)

include spelled located there fits

/-- The document of a version is stopped exactly if the version is obstructed. -/
theorem exists_stops_iff {version : Version} (member : version ∈ model.versions) :
    (∃ path, (documentFile output format version).Stops base system path) ↔
      Obstructed output format base system version := by
  simp only [stops_documentFile_iff (spelled version member).1 (spelled version member).2 located
    there (fits version member), exists_or, exists_and_left, exists_eq, and_true]
  rfl

/-- A run ends at the first version that is obstructed, with any path that stops its document. -/
theorem run_of_obstructed {before later : List Version} {version : Version}
    (split : model.versions = before ++ version :: later)
    (free : ∀ other ∈ before, ¬ Obstructed output format base system other)
    (stops : (documentFile output format version).Stops base system path)
    (earlier : List String) :
    ∃ middle cause,
      Wrote (before.map (documentFile output format)) base system middle ∧
      (standard model earlier output format).run system =
        ⟨(standard model earlier output format).reporting
            ((standard model earlier output format).messages (before ++ [version])),
          (documentFile output format version).abandon middle, some (.write path cause)⟩ := by
  refine run_of_stops spelled located there split ?_ stops earlier
  intro other early path stopped
  have member : other ∈ model.versions := split ▸ List.mem_append_left _ early
  exact free other early ((exists_stops_iff spelled located there fits member).1 ⟨path, stopped⟩)

/-- A run is stopped exactly if some version is obstructed. -/
theorem exists_write_failure_iff (earlier : List String) :
    (∃ path cause, ((standard model earlier output format).run system).failure =
        some (.write path cause)) ↔
      ∃ version ∈ model.versions, Obstructed output format base system version := by
  constructor
  · rintro ⟨path, cause, failed⟩
    by_contra free
    obtain ⟨written, -, outcome⟩ := run_of_clear spelled located there
      (fun version member path stopped => free ⟨version, member,
        (exists_stops_iff spelled located there fits member).1 ⟨path, stopped⟩⟩) earlier
    rw [outcome] at failed
    exact endOfCount_ne_write _ path cause failed
  · intro obstructed
    obtain ⟨before, version, later, split, holds, free⟩ := exists_first obstructed
    have member : version ∈ model.versions :=
      split ▸ List.mem_append_right _ List.mem_cons_self
    obtain ⟨path, stops⟩ := (exists_stops_iff spelled located there fits member).2 holds
    obtain ⟨_, cause, -, outcome⟩ :=
      run_of_obstructed spelled located there fits split free stops earlier
    exact ⟨path, cause, congrArg Progress.failure outcome⟩

end Obstructed

/--
Whether a run for a loaded model is stopped is decided by the files and
directories that are below the output directory at its start, if all paths fit:
it is stopped at the first version whose document has a file on its way or a
directory in its place, and names the directory or the document.  Every version
before has its document written, the last one at each path staying, nothing else
changes, and the messages are those of the versions up to that one.
-/
theorem run_standard_stopped {description : Description.ModelDescription}
    (loaded : description.load = .ok model) (earlier : List String)
    (located : system.locate output = .ok base) (there : system.root.HasDirectory base)
    (fits : ∀ version ∈ model.versions, (documentFile output format version).Fits) :
    let run := (standard model earlier output format).run system
    ((∃ path cause, run.failure = some (.write path cause)) ↔
      ∃ version ∈ model.versions, Obstructed output format base system version) ∧
    ∀ before version later, model.versions = before ++ version :: later →
      (∀ other ∈ before, ¬ Obstructed output format base system other) →
      Obstructed output format base system version →
        ((documentFile output format version).FileOnTheWay base system →
          ∃ cause, run.failure =
            some (.write (documentFile output format version).directory cause)) ∧
        ((documentFile output format version).DirectoryInPlace base system →
          ∃ cause, run.failure = some (.write (documentFile output format version).path cause)) ∧
        (∀ front kept back, before = front ++ kept :: back →
          (∀ other ∈ back,
            (documentFile output format other).path ≠ (documentFile output format kept).path) →
          run.system.readFile (documentFile output format kept).path =
            .ok (documentFile output format kept).text) ∧
        (∀ place, (∀ other ∈ before, place ≠ base ++ (documentFile output format other).place) →
          run.system.root.fileAt? place = system.root.fileAt? place) ∧
        run.generator.reporter.messages =
          earlier ++ (standard model earlier output format).messages (before ++ [version]) := by
  intro run
  have spelled : Spelled model.versions := fun _ => spelled_of_load loaded
  refine ⟨exists_write_failure_iff spelled located there fits earlier, ?_⟩
  intro before version later split free obstructed
  have member : version ∈ model.versions := split ▸ List.mem_append_right _ List.mem_cons_self
  have stops := stops_documentFile_iff (spelled version member).1 (spelled version member).2
    located there (fits version member)
  have named {path : String}
      (stopped : (documentFile output format version).Stops base system path) :
      ∃ cause, run.failure = some (.write path cause) := by
    obtain ⟨_, cause, -, outcome⟩ :=
      run_of_obstructed spelled located there fits split free stopped earlier
    exact ⟨cause, congrArg Progress.failure outcome⟩
  obtain ⟨path, stopped⟩ := (exists_stops_iff spelled located there fits member).2 obstructed
  obtain ⟨middle, cause, wrote, outcome⟩ :=
    run_of_obstructed spelled located there fits split free stopped earlier
  have left : run.system = (documentFile output format version).abandon middle :=
    congrArg Progress.system outcome
  obtain ⟨kept, unchanged⟩ := files_abandon version wrote
  refine ⟨?_, ?_, left ▸ kept, left ▸ unchanged, ?_⟩
  · exact fun onTheWay => named ((stops _).2 (.inl ⟨onTheWay, rfl⟩))
  · exact fun inPlace => named ((stops _).2 (.inr ⟨inPlace, rfl⟩))
  · exact congrArg (·.generator.reporter.messages) outcome

/-- A file system in which a file stands where the second of three packages goes. -/
def hindered : System :=
  ⟨.directory [("out", .directory [("clustersmgmt", .directory [("v2", .file "occupied")])])], []⟩

theorem run_standard_stopped_crowded : ∃ model first second third, crowded.load = .ok model ∧
    model.versions = [first, second, third] ∧ hindered.locate "out" = .ok ["out"] ∧
    hindered.root.HasDirectory ["out"] ∧
    (∀ version ∈ model.versions, (documentFile "out" .json version).Fits) ∧
    let run := (standard model ["earlier"] "out" .json).run hindered
    (∃ cause, run.failure = some (.write "out/clustersmgmt/v2" cause)) ∧
    run.system.readFile "out/clustersmgmt/v1/openapi.json" =
      .ok (documentFile "out" .json first).text ∧
    run.system.root.fileAt? ["out", "clustersmgmt", "v2"] = some "occupied" := by
  have accepted : crowded.load.toOption.any fun model =>
      model.versions.map (fun version => (documentFile "out" .json version).packageNames) ==
          [["clustersmgmt", "v1"], ["clustersmgmt", "v2"], ["clustersmgmt", "v1"]] &&
        model.versions.map (fun version => (documentFile "out" .json version).directory) ==
          ["out/clustersmgmt/v1", "out/clustersmgmt/v2", "out/clustersmgmt/v1"] &&
        model.versions.map (fun version => (documentFile "out" .json version).path) ==
          ["out/clustersmgmt/v1/openapi.json", "out/clustersmgmt/v2/openapi.json",
            "out/clustersmgmt/v1/openapi.json"] &&
        decide (∀ version ∈ model.versions, (documentFile "out" .json version).Fits) := by
    decide +kernel
  obtain ⟨model, loaded, outcome⟩ := Description.exists_eq_ok_of_any accepted
  simp only [Bool.and_eq_true, beq_iff_eq, decide_eq_true_eq] at outcome
  obtain ⟨⟨⟨packages, directories⟩, paths⟩, fits⟩ := outcome
  obtain ⟨first, second, third, shape⟩ : ∃ first second third,
      model.versions = [first, second, third] :=
    List.length_eq_three.1 (by simpa using congrArg List.length packages)
  rw [shape] at packages directories paths
  simp only [List.map_cons, List.map_nil, List.cons.injEq, and_true] at packages directories paths
  have located : hindered.locate "out" = .ok ["out"] := by
    decide +kernel
  have there : hindered.root.HasDirectory ["out"] := rfl
  have free : ¬ Obstructed "out" .json ["out"] hindered first := by
    rintro (⟨front, -, begins, present⟩ | inPlace)
    · rw [packages.1, ← List.mem_inits] at begins
      revert front
      decide
    · rw [DocumentFile.DirectoryInPlace, DocumentFile.place, packages.1] at inPlace
      cases inPlace
  have onTheWay : (documentFile "out" .json second).FileOnTheWay ["out"] hindered := by
    rw [DocumentFile.FileOnTheWay, packages.2.1]
    exact ⟨["clustersmgmt", "v2"], List.cons_ne_nil _ _, List.prefix_refl _, rfl⟩
  obtain ⟨-, ends⟩ := run_standard_stopped loaded ["earlier"] located there fits
  obtain ⟨named, -, kept, unchanged, -⟩ := ends [first] second [third] shape
    (by simpa using free) (.inl onTheWay)
  refine ⟨model, first, second, third, loaded, shape, located, there, fits, ?_, ?_, ?_⟩
  · obtain ⟨cause, failure⟩ := named onTheWay
    exact ⟨cause, by rw [failure, directories.2.1]⟩
  · have read := kept [] first [] rfl (List.forall_mem_nil _)
    rwa [paths.1] at read
  · refine unchanged _ ?_
    simp [DocumentFile.place, packages.1]

end Generator

end VersionedApi.Generation
