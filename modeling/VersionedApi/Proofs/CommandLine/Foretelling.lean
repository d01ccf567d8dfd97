import Mathlib.Data.List.Sort
import VersionedApi.CommandLine.Summary
import VersionedApi.Proofs.Generation.Confined
import VersionedApi.Proofs.OpenApi.Links
import VersionedApi.Proofs.OpenApi.SchemaKeys

/-!
# Summaries foretell documents

A summary lists the paths of a version by sorting them and dropping repetitions,
and its schemas as they are declared.  The document of the version is written
item by item and schema by schema.  Both come to the same keys, and the summary
names the directory that the document is written to.
-/

namespace VersionedApi.CommandLine

open VersionedApi.Document VersionedApi.Files VersionedApi.Generation VersionedApi.Model
  VersionedApi.OpenApi

/-! ## Paths -/

/-- The paths in a summary ascend strictly. -/
theorem pathTexts_ascend (version : Version) : (pathTexts version).Pairwise (· < ·) := by
  have sorted := Text.pairwise_mergeSort_le id (version.paths.map version.absolutePath)
  refine (Order.pairwise_dropRepeated (fun _ _ => String.le_antisymm) sorted).imp ?_
  rintro left right ⟨le, different⟩
  exact String.not_le.1 fun ge => different (String.le_antisymm le ge)

theorem mem_pathTexts_iff {version : Version} {text : String} :
    text ∈ pathTexts version ↔ ∃ path ∈ version.paths, version.absolutePath path = text := by
  rw [pathTexts, Order.mem_sortDistinct, List.mem_map]

/-- Where no locator dangles the items of a version have the paths in its summary as keys. -/
theorem keys_pathItems_eq_pathTexts {version : Version} (closed : version.Closed)
    (conventions : Conventions) :
    Fields.keys (build (pathItems conventions version).steps) = pathTexts version := by
  rw [keys_pathItems_of_closed conventions closed]
  refine (keys_distinctPaths_ascend version).eq_of_mem_iff (pathTexts_ascend version) ?_
  intro key
  rw [mem_keys_distinctPaths_iff, mem_pathTexts_iff]

/-! ## Documents -/

/--
A summary tells the paths and the schemas of a document, the latter but for those
that give way to one of their name, and the directory that the document goes to.
-/
structure Foretells (summary : Node) (file : DocumentFile) : Prop where
  paths : ∃ (texts : List String) (items : Fields),
    summary.pointer? ["paths"] = some (.array (texts.map .text)) ∧
    (Node.object file.fields).pointer? ["paths"] = some (.object items) ∧
    Fields.keys items = texts
  schemas : ∃ (names : List String) (schemas : Fields),
    summary.pointer? ["schemas"] = some (.array (names.map .text)) ∧
    (Node.object file.fields).pointer? ["components", "schemas"] = some (.object schemas) ∧
    Fields.keys schemas = (names.filter (· ≠ "Error")).eraseDups ++ ["Error"]
  package : ∃ package, summary.pointer? ["package"] = some (.text package) ∧
    ∀ {before after : System}, before.root.HasDirectory (before.start file.output) →
      file.write before = .ok after →
      ∃ base, after.locate file.output = .ok base ∧ ∀ place, after.root.fileAt? place =
        if place = base ++ (PathText.parts package).filter (· ≠ "") ++ [file.fileName] then
          some file.text
        else before.root.fileAt? place

/-- A document that is written stands below its output directory, which may be made for it. -/
theorem exists_locate_of_write {file : DocumentFile} (descends : file.Descends)
    (given : file.output ≠ "") {before after : System}
    (started : before.root.HasDirectory (before.start file.output))
    (writes : file.write before = .ok after) :
    ∃ base, after.locate file.output = .ok base ∧ ∀ place, after.root.fileAt? place =
      if place = base ++ file.place then some file.text else before.root.fileAt? place := by
  obtain ⟨ready, base, located, there, same, again⟩ :=
    DocumentFile.exists_ready descends given started writes
  have wrote := Wrote.of_write descends located there again
  refine ⟨base, System.locate_of_hasDirectory wrote.current wrote.directories located, ?_⟩
  intro place
  rw [wrote.content, same]
  rfl

/-- The summary of a version foretells its document. -/
theorem foretells_documentFile {version : Version} (closed : version.Closed)
    (service : version.service.Spelled) (name : version.name.Spelled) {output : String}
    (given : output ≠ "") (format : Format) :
    Foretells (summarizeVersion version) (Generator.documentFile output format version) where
  paths := by
    refine ⟨pathTexts version, _, rfl, pointer?_document_paths (.ofBinding .http) version, ?_⟩
    exact keys_pathItems_eq_pathTexts closed _
  schemas := by
    refine ⟨schemaNames version, _, rfl, pointer?_document (.ofBinding .http) version, ?_⟩
    exact schemaNames_eq (.ofBinding .http) version
  package := by
    refine ⟨Packaging.standard.package version, rfl, fun started writes => ?_⟩
    obtain ⟨base, located, content⟩ := exists_locate_of_write
      (Generator.descends_documentFile output format service name) given started writes
    refine ⟨base, located, fun place => ?_⟩
    rw [content, DocumentFile.place, List.append_assoc]
    rfl

/--
The summary of a loaded model foretells what a run writes: its summaries stand in
the order in which the documents are written, one for each, and a run writes all of
them or those up to a write that fails.
-/
theorem summarize_foretells {description : Description.ModelDescription} {model : ApiModel}
    (loaded : description.load = .ok model) (earlier : List String) {output : String}
    (given : output ≠ "") (format : Format) :
    let generator := Generator.standard model earlier output format
    (∃ summaries, summarize model = [("versions", .array summaries)] ∧
      List.Forall₂ Foretells summaries (generator.files model.versions)) ∧
    ∀ system, ∃ done written, done <+: generator.files model.versions ∧
      Generator.writeAll done system = .ok written ∧
      (∀ place, (generator.run system).system.root.fileAt? place =
        written.root.fileAt? place) ∧
      (done = generator.files model.versions ∨
        ∃ path cause, (generator.run system).failure = some (.write path cause)) := by
  intro generator
  constructor
  · refine ⟨model.versions.map summarizeVersion, rfl, ?_⟩
    rw [List.forall₂_map_left_iff]
    refine List.forall₂_map_right_iff.2 (List.forall₂_same.2 fun version member => ?_)
    obtain ⟨service, name⟩ := Generator.spelled_of_load loaded member
    exact foretells_documentFile (Description.load_wellFormed loaded member).locators
      service name given format
  · intro system
    obtain ⟨done, written, among, writes, -, files, -, whole⟩ :=
      Generator.exists_writeAll_of_run model earlier output format system
    refine ⟨_, written, among.map _, writes, files, whole.imp_left ?_⟩
    rintro rfl
    rfl

/-- The enum that is named as the schema of errors is left out, and the twins share one schema. -/
theorem summarize_foretells_clashing : ∃ model summary file, clashing.load = .ok model ∧
    "out" ≠ "" ∧ summarize model = [("versions", .array [summary])] ∧
    (Generator.standard model [] "out" .json).files model.versions = [file] ∧
    summary.pointer? ["schemas"] = some (.array [.text "Error", .text "Foo1", .text "Foo1"]) ∧
    ∃ schemas, (Node.object file.fields).pointer? ["components", "schemas"] =
        some (.object schemas) ∧
      Fields.keys schemas = ["Foo1", "Error"] := by
  obtain ⟨model, loaded, names⟩ := Description.exists_eq_ok_of_any
    (show clashing.load.toOption.any
      (fun model => model.versions.map schemaNames == [["Error", "Foo1", "Foo1"]]) by
        decide +kernel)
  rw [beq_iff_eq] at names
  obtain ⟨version, versions⟩ := List.length_eq_one_iff.1
    (by simpa using congrArg List.length names)
  rw [versions, List.map_singleton, List.singleton_inj] at names
  have given : "out" ≠ "" := by decide
  obtain ⟨⟨summaries, shape, foretell⟩, -⟩ := summarize_foretells loaded [] given .json
  rw [summarize, versions] at shape
  obtain rfl : [summarizeVersion version] = summaries := by simpa using shape
  rw [versions] at foretell
  obtain ⟨foretells, -⟩ := List.forall₂_cons.1 foretell
  have listed : (summarizeVersion version).pointer? ["schemas"] =
      some (.array [.text "Error", .text "Foo1", .text "Foo1"]) := by
    change some (Node.array ((schemaNames version).map Node.text)) = _
    rw [names]
    rfl
  obtain ⟨told, schemas, same, pointed, keys⟩ := foretells.schemas
  refine ⟨model, _, _, loaded, given, by rw [summarize, versions]; rfl, by rw [versions]; rfl,
    listed, schemas, pointed, ?_⟩
  have texts : told.map Node.text = ["Error", "Foo1", "Foo1"].map Node.text := by
    rw [listed] at same
    simpa using same.symm
  obtain rfl := (List.map_injective_iff.2 fun _ _ => Node.text.inj) texts
  rw [keys]
  decide +kernel

end VersionedApi.CommandLine
