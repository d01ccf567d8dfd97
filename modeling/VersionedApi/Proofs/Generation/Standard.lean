import VersionedApi.Proofs.Generation.Obstacles
import VersionedApi.Proofs.Model.Spelling

/-!
# Documents under the standard conventions

The standard packaging names directories after the service and the version.  The
names of a loaded model are spelled by texts, so these directories lead down
from the output directory, and no document is on the way to another.
-/

namespace VersionedApi.Generation

open VersionedApi.Document VersionedApi.Files VersionedApi.Model VersionedApi.OpenApi

namespace Generator

/-- The name of the service without its underscores, and that of the version. -/
def packageParts (version : Version) : List String :=
  [String.ofList (version.service.snake.toList.filter (· ≠ '_')), version.name.snake]

/-- The directories that the standard packaging gives a version, from the outermost on. -/
def packageNames (version : Version) : List String :=
  (packageParts version).filter (· ≠ "")

/-- The names of a loaded version are spelled by texts. -/
theorem spelled_of_load {description : Description.ModelDescription} {model : ApiModel}
    (loaded : description.load = .ok model) {version : Version}
    (member : version ∈ model.versions) : version.service.Spelled ∧ version.name.Spelled := by
  obtain ⟨_, -, _, -, agrees⟩ := Description.exists_agrees_of_load loaded member
  exact ⟨⟨_, agrees.service⟩, ⟨_, agrees.name⟩⟩

/-- A text without dots and slashes is the name of an entry, unless it is empty. -/
theorem isName_of_plain {part : String} (nonempty : part ≠ "")
    (plain : ∀ c ∈ part.toList, c ≠ '.' ∧ c ≠ '/') : IsName part := by
  have dotless (text : String) (dot : '.' ∈ text.toList) : part ≠ text := by
    rintro rfl
    exact (plain _ dot).1 rfl
  constructor
  · simp [PathText.isIdle, nonempty, dotless "." (by decide +kernel)]
  · exact dotless ".." (by decide +kernel)
  · intro slash
    exact (plain _ slash).2 rfl

variable {version : Version}

/-- What no name holds is in no part of a package either. -/
theorem not_mem_packageParts (service : version.service.Spelled) (name : version.name.Spelled)
    {c : Char} (joint : c ≠ '_') (special : ¬ Text.IsPlain c) :
    ∀ part ∈ packageParts version, c ∉ part.toList := by
  intro part member inside
  rcases List.mem_cons.1 member with rfl | member
  · rw [String.toList_ofList] at inside
    exact Name.not_mem_snake service joint special (List.mem_filter.1 inside).1
  · obtain rfl := List.mem_singleton.1 member
    exact Name.not_mem_snake name joint special inside

theorem plain_of_spelled (service : version.service.Spelled) (name : version.name.Spelled) :
    ∀ part ∈ packageParts version, ∀ c ∈ part.toList, c ≠ '.' ∧ c ≠ '/' := by
  intro part member c inside
  constructor
  · rintro rfl
    exact not_mem_packageParts service name (by decide) (by decide) part member inside
  · rintro rfl
    exact not_mem_packageParts service name (by decide) (by decide) part member inside

/-- The standard packaging of spelled names leads through the directories named after them. -/
theorem names_package (service : version.service.Spelled) (name : version.name.Spelled) :
    PathText.names (Packaging.standard.package version) = packageNames version := by
  have whole : ∀ part ∈ packageParts version, '/' ∉ part.toList := by
    intro part member slash
    exact (plain_of_spelled service name part member _ slash).2 rfl
  rw [PathText.names, Packaging.standard, PathText.parts_append_slash,
    PathText.parts_of_isWhole (whole _ List.mem_cons_self),
    PathText.parts_of_isWhole (whole _ (List.mem_cons_of_mem _ List.mem_cons_self))]
  rfl

def documentFile (output : String) (format : Format) (version : Version) : DocumentFile where
  output := output
  package := Packaging.standard.package version
  name := DocumentFile.defaultName
  format := format
  fields := build (specification (.ofBinding .http) version).steps

theorem files_standard (model : ApiModel) (earlier : List String) (output : String)
    (format : Format) (versions : List Version) :
    (standard model earlier output format).files versions =
      versions.map (documentFile output format) := rfl

theorem fileName_documentFile (output : String) (format : Format) (version : Version) :
    (documentFile output format version).fileName = "openapi.json" ∨
      (documentFile output format version).fileName = "openapi.yaml" := by
  cases format with
  | json => exact .inl rfl
  | yaml => exact .inr rfl

theorem descends_documentFile (output : String) (format : Format)
    (service : version.service.Spelled) (name : version.name.Spelled) :
    (documentFile output format version).Descends := by
  constructor
  · intro part member
    change part ∈ PathText.names (Packaging.standard.package version) at member
    rw [names_package service name] at member
    obtain ⟨among, nonempty⟩ := List.mem_filter.1 member
    exact isName_of_plain (of_decide_eq_true nonempty) (plain_of_spelled service name part among)
  · rcases fileName_documentFile output format version with json | yaml
    · rw [json]
      exact ⟨by decide +kernel, by decide, by decide +kernel⟩
    · rw [yaml]
      exact ⟨by decide +kernel, by decide, by decide +kernel⟩
  · rcases fileName_documentFile output format version with json | yaml
    · rw [json]
      decide
    · rw [yaml]
      decide

variable {output : String} {format : Format} {system : System} {base : List String}

/-- What no name holds is in no directory of a package. -/
theorem not_mem_packageNames (output : String) (format : Format)
    (service : version.service.Spelled) (name : version.name.Spelled)
    {c : Char} (joint : c ≠ '_') (special : ¬ Text.IsPlain c) :
    ∀ part ∈ (documentFile output format version).packageNames, c ∉ part.toList := by
  intro part member
  change part ∈ PathText.names (Packaging.standard.package version) at member
  rw [names_package service name] at member
  exact not_mem_packageParts service name joint special part (List.mem_filter.1 member).1

theorem orderly_documentFile (output : String) (format : Format)
    (service : version.service.Spelled) (name : version.name.Spelled) :
    (documentFile output format version).Orderly output where
  output := rfl
  descends := descends_documentFile output format service name
  dotless := not_mem_packageNames output format service name (by decide) (by decide)
  dotted := by
    rcases fileName_documentFile output format version with json | yaml
    · rw [json]
      decide +kernel
    · rw [yaml]
      decide +kernel

def Spelled (versions : List Version) : Prop :=
  ∀ version ∈ versions, version.service.Spelled ∧ version.name.Spelled

theorem orderly_of_spelled (output : String) (format : Format) {versions : List Version}
    (spelled : Spelled versions) :
    ∀ file ∈ versions.map (documentFile output format), file.Orderly output := by
  intro file member
  obtain ⟨version, offered, rfl⟩ := List.mem_map.1 member
  exact orderly_documentFile output format (spelled version offered).1 (spelled version offered).2

theorem wrote_of_writeAll {versions : List Version} {written : System}
    (spelled : Spelled versions) (located : system.locate output = .ok base)
    (there : system.root.HasDirectory base)
    (writes : writeAll (versions.map (documentFile output format)) system = .ok written) :
    Wrote (versions.map (documentFile output format)) base system written :=
  Wrote.of_writeAll
    (fun file member => ⟨(orderly_of_spelled output format spelled file member).output,
      (orderly_of_spelled output format spelled file member).descends⟩)
    located there writes

theorem stops_documentFile_iff {version : Version} (service : version.service.Spelled)
    (name : version.name.Spelled) (located : system.locate output = .ok base)
    (there : system.root.HasDirectory base) (fits : (documentFile output format version).Fits)
    (path : String) :
    (documentFile output format version).Stops base system path ↔
      (documentFile output format version).FileOnTheWay base system ∧
          path = (documentFile output format version).directory ∨
        (documentFile output format version).DirectoryInPlace base system ∧
          path = (documentFile output format version).path := by
  refine fits.stops_iff (descends_documentFile output format service name) located there ?_
  intro part member
  rcases List.mem_append.1 member with inPackage | last
  · exact not_mem_packageNames output format service name (by decide) (by decide) part inPackage
  · rw [List.mem_singleton.1 last]
    rcases fileName_documentFile output format version with json | yaml
    · rw [json]
      decide +kernel
    · rw [yaml]
      decide +kernel

/-- In a directory that was empty there are as many files as paths of versions. -/
theorem length_filesUnder_of_writeAll {versions : List Version} {written : System}
    (spelled : Spelled versions) (located : system.locate output = .ok base)
    (empty : system.root.at? base = some (.directory []))
    (writes : writeAll (versions.map (documentFile output format)) system = .ok written) :
    (written.filesUnder base).length =
      (versions.map fun version => (documentFile output format version).path).dedup.length := by
  have wrote := wrote_of_writeAll spelled located (Tree.hasDirectory_of_at? empty) writes
  have outputs : ∀ file ∈ versions.map (documentFile output format), file.output = output :=
    fun file member => (orderly_of_spelled output format spelled file member).output
  rw [wrote.length_filesUnder outputs empty, List.map_map]
  rfl

/-- Into an empty directory all documents are written that fit. -/
theorem exists_writeAll_of_empty {versions : List Version} (spelled : Spelled versions)
    (located : system.locate output = .ok base)
    (empty : system.root.at? base = some (.directory []))
    (fits : ∀ version ∈ versions, (documentFile output format version).Fits) :
    ∃ written, writeAll (versions.map (documentFile output format)) system = .ok written := by
  have there := Tree.hasDirectory_of_at? empty
  apply DocumentFile.exists_writeAll_of_clear (orderly_of_spelled output format spelled) located
    there
  intro file member path stops
  obtain ⟨version, listed, rfl⟩ := List.mem_map.1 member
  obtain ⟨service, name⟩ := spelled version listed
  rcases (stops_documentFile_iff service name located there (fits version listed) path).1 stops with
    ⟨⟨front, nonempty, -, present⟩, -⟩ | ⟨inPlace, -⟩
  · obtain ⟨first, rest, rfl⟩ := List.exists_cons_of_ne_nil nonempty
    rw [Tree.fileAt?_append empty] at present
    cases present
  · obtain ⟨first, rest, shape⟩ := List.exists_cons_of_ne_nil
      (show (documentFile output format version).place ≠ [] by simp [DocumentFile.place])
    rw [DocumentFile.DirectoryInPlace, Tree.hasDirectory_append empty, shape] at inPlace
    cases inPlace

end Generator

end VersionedApi.Generation
