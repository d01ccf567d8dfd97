import VersionedApi.Proofs.Generation.Standard

/-!
# Documents that a run keeps

A run leaves at each path the last document that goes there, so it keeps the
documents of all versions exactly if no two of them go to one path.
-/

namespace VersionedApi.Generation

open VersionedApi.Document VersionedApi.Files VersionedApi.Model VersionedApi.OpenApi

namespace Generator

/--
What a run for a loaded model leaves in an output directory that was empty, if
no write fails: at each path the document of the last version that goes there,
and no other files.  So there are as many files as versions exactly if all
paths differ.  Two versions share a path if their names agree after the
underscores of the services are dropped, and empty ones left out.
-/
theorem run_standard_keeps {description : Description.ModelDescription} {model : ApiModel}
    (loaded : description.load = .ok model) (earlier : List String) (output : String)
    (format : Format) {system written : System} {place : List String}
    (located : system.locate output = .ok place)
    (empty : system.root.at? place = some (.directory []))
    (writes : writeAll ((standard model earlier output format).files model.versions) system =
      .ok written) :
    ((standard model earlier output format).run system).system = written ∧
    (∀ before version later, model.versions = before ++ version :: later →
      (∀ other ∈ later,
        (documentFile output format other).path ≠ (documentFile output format version).path) →
      written.readFile (documentFile output format version).path =
        .ok (documentFile output format version).text) ∧
    (written.filesUnder place).length =
      (model.versions.map fun version => (documentFile output format version).path).dedup.length ∧
    ((written.filesUnder place).length = model.versions.length ↔
      (model.versions.map fun version => (documentFile output format version).path).Nodup) ∧
    ∀ first ∈ model.versions, ∀ second ∈ model.versions,
      (documentFile output format first).path = (documentFile output format second).path ↔
        packageNames first = packageNames second := by
  have spelled : Spelled model.versions := fun _ => spelled_of_load loaded
  have member : ∀ version ∈ model.versions,
      documentFile output format version ∈ model.versions.map (documentFile output format) :=
    fun _ => List.mem_map_of_mem
  have outcome := run_of_writes writes
  rw [files_standard] at writes
  have wrote := wrote_of_writeAll spelled located (Tree.hasDirectory_of_at? empty) writes
  have count := length_filesUnder_of_writeAll spelled located empty writes
  refine ⟨congrArg Progress.system outcome, ?_, count, ?_, ?_⟩
  · intro before version later split last
    refine wrote.readFile_of_last (by rw [split, List.map_append, List.map_cons]) ?_
    intro other memberOther
    obtain ⟨otherVersion, listed, rfl⟩ := List.mem_map.1 memberOther
    exact ⟨rfl, last otherVersion listed⟩
  · rw [count]
    constructor
    · intro same
      have all := (List.dedup_sublist _).eq_of_length (same.trans (List.length_map _).symm)
      exact List.dedup_eq_self.1 all
    · intro distinct
      rw [List.dedup_eq_self.2 distinct, List.length_map]
  · intro first memberFirst second memberSecond
    rw [wrote.path_eq_iff (member first memberFirst) (member second memberSecond) rfl,
      ← names_package (spelled first memberFirst).1 (spelled first memberFirst).2,
      ← names_package (spelled second memberSecond).1 (spelled second memberSecond).2]
    exact List.append_left_inj _

/--
Two services whose names differ by an underscore, and in one of them a version
that has its name to itself.
-/
def crowded : Description.ModelDescription where
  services := [
    { name := "clusters_mgmt", versions := [{ name := "v1" }, { name := "v2" }] },
    { name := "clustersmgmt", versions := [{ name := "v1" }] }]

/-- A file system with nothing but an empty directory for documents. -/
def vacant : System :=
  ⟨.directory [("out", .directory [])], []⟩

theorem locate_vacant : vacant.locate "out" = .ok ["out"] := by
  decide +kernel

/-- The document of the first version and that of the last are written to one path. -/
theorem exists_writeAll_crowded : ∃ model written, crowded.load = .ok model ∧
    writeAll ((standard model [] "out" .json).files model.versions) vacant = .ok written ∧
    (written.filesUnder ["out"]).length = 2 ∧
    ∃ first second third, model.versions = [first, second, third] ∧
      first.service = ⟨"clusters_mgmt"⟩ ∧ third.service = ⟨"clustersmgmt"⟩ ∧
      (documentFile "out" .json first).path = (documentFile "out" .json third).path := by
  have accepted : crowded.load.toOption.any fun model =>
      model.versions.map (·.service) ==
          [⟨"clusters_mgmt"⟩, ⟨"clusters_mgmt"⟩, ⟨"clustersmgmt"⟩] &&
        model.versions.map (documentFile "out" .json · |>.path) ==
          ["out/clustersmgmt/v1/openapi.json", "out/clustersmgmt/v2/openapi.json",
            "out/clustersmgmt/v1/openapi.json"] &&
        decide (∀ version ∈ model.versions, (documentFile "out" .json version).Fits) := by
    decide +kernel
  obtain ⟨model, loaded, outcome⟩ := Description.exists_eq_ok_of_any accepted
  simp only [Bool.and_eq_true, beq_iff_eq, decide_eq_true_eq] at outcome
  obtain ⟨⟨services, paths⟩, fits⟩ := outcome
  obtain ⟨written, writes⟩ := exists_writeAll_of_empty (fun _ => spelled_of_load loaded)
    locate_vacant rfl fits
  have count : (written.filesUnder ["out"]).length = 2 := by
    rw [length_filesUnder_of_writeAll (fun _ => spelled_of_load loaded) locate_vacant rfl writes,
      paths]
    decide
  refine ⟨model, written, loaded, writes, count, ?_⟩
  obtain ⟨first, second, third, shape⟩ : ∃ first second third,
      model.versions = [first, second, third] :=
    List.length_eq_three.1 (by simpa using congrArg List.length services)
  simp only [shape, List.map_cons, List.cons.injEq] at services paths
  exact ⟨first, second, third, shape, services.1, services.2.2.1, paths.1.trans paths.2.2.1.symm⟩

theorem run_standard_keeps_crowded : ∃ model written, crowded.load = .ok model ∧
    writeAll ((standard model [] "out" .json).files model.versions) vacant = .ok written ∧
    ((standard model [] "out" .json).run vacant).system = written ∧
    ∃ version ∈ model.versions, version.service = ⟨"clustersmgmt"⟩ ∧
      written.readFile (documentFile "out" .json version).path =
        .ok (documentFile "out" .json version).text := by
  obtain ⟨model, written, loaded, writes, -, first, second, third, shape, -, service, -⟩ :=
    exists_writeAll_crowded
  obtain ⟨kept, last, -⟩ := run_standard_keeps loaded [] "out" .json locate_vacant rfl writes
  refine ⟨model, written, loaded, writes, kept, third, ?_, service, ?_⟩
  · rw [shape]
    exact List.mem_of_getElem? (show [first, second, third][2]? = some third from rfl)
  · exact last [first, second] third [] shape nofun

/-- A run for such services loses a document: two go to one path, so there are fewer files. -/
theorem run_standard_loses : ∃ model written, crowded.load = .ok model ∧
    writeAll ((standard model [] "out" .json).files model.versions) vacant = .ok written ∧
    (written.filesUnder ["out"]).length < model.versions.length ∧
    ∃ first ∈ model.versions, ∃ second ∈ model.versions, first ≠ second ∧
      (documentFile "out" .json first).path = (documentFile "out" .json second).path := by
  obtain ⟨model, written, loaded, writes, count, first, second, third, shape, serviceFirst,
    serviceThird, same⟩ := exists_writeAll_crowded
  refine ⟨model, written, loaded, writes, ?_, first, ?_, third, ?_, ?_, same⟩
  · rw [count, shape]
    exact Nat.lt_succ_self 2
  · rw [shape]
    exact List.mem_cons_self
  · rw [shape]
    exact List.mem_of_getElem? (show [first, second, third][2]? = some third from rfl)
  · rintro rfl
    rw [serviceFirst] at serviceThird
    revert serviceThird
    decide

end Generator

end VersionedApi.Generation
