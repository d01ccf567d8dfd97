import VersionedApi.Generation.Generator
import VersionedApi.Proofs.OpenApi.ProblemCount

/-!
# The outcome of a run

A run reports the problems of every version behind the messages that are there
already, and fails with the number of those that it added.
-/

namespace VersionedApi.Generation

open VersionedApi.Document VersionedApi.Files VersionedApi.Model VersionedApi.OpenApi

namespace Generator

def files (generator : Generator) (versions : List Version) : List DocumentFile :=
  versions.map fun version => (generator.document version).2

def messages (generator : Generator) (versions : List Version) : List String :=
  versions.flatMap fun version => (generator.draft version).problems.map (·.message)

def writeAll (files : List DocumentFile) (system : System) : Except Failure System :=
  files.foldlM (fun system file => file.write system) system

def reporting (generator : Generator) (messages : List String) : Generator :=
  { generator with reporter := generator.reporter.errors messages }

theorem reporting_reporting (generator : Generator) (early late : List String) :
    (generator.reporting early).reporting late = generator.reporting (early ++ late) := by
  simp [reporting, Reporter.errors]

/-- Versions whose documents can be written are left behind with their messages reported. -/
theorem writeVersions_append {generator : Generator} {before rest : List Version}
    {system middle : System} (writes : writeAll (generator.files before) system = .ok middle) :
    generator.writeVersions system (before ++ rest) =
      (generator.reporting (generator.messages before)).writeVersions middle rest := by
  induction before generalizing generator system with
  | nil =>
      obtain rfl := Except.ok.inj writes
      simp [messages, reporting, Reporter.errors]
  | cons version before ih =>
      obtain ⟨next, writesFirst, writesRest⟩ := Description.bind_eq_ok_iff.1 writes
      change (generator.document version).2.write system = .ok next at writesFirst
      have first : generator.document version =
          (generator.reporting (generator.messages [version]),
            (generator.document version).2) := by
        simp [document, messages, reporting]
      -- What was reported does not change the documents that are still to come.
      have later : writeAll ((generator.reporting (generator.messages [version])).files before)
          next = .ok middle := writesRest
      rw [List.cons_append, writeVersions, first]
      dsimp only
      rw [writesFirst]
      dsimp only
      rw [ih later, reporting_reporting]
      simp [messages, draft, reporting]

/-- Where no write fails, all messages are reported and all documents written. -/
theorem writeVersions_of_writes {generator : Generator} {versions : List Version}
    {system written : System} (writes : writeAll (generator.files versions) system = .ok written) :
    generator.writeVersions system versions =
      ⟨generator.reporting (generator.messages versions), written, none⟩ := by
  have passed : generator.writeVersions system (versions ++ []) = _ := writeVersions_append writes
  rwa [List.append_nil] at passed

/-- How a run ends that wrote all documents and reported a number of problems. -/
def endOfCount (count : Nat) : Option Failure :=
  if count = 0 then none else some (.problems count)

theorem endOfCount_ne_write (count : Nat) (path : String) (cause : FileError) :
    endOfCount count ≠ some (.write path cause) := by
  unfold endOfCount
  split <;> exact nofun

/-- A run on a file system that takes all writes fails only for the problems it reports. -/
theorem run_of_writes {generator : Generator} {system written : System}
    (writes : writeAll (generator.files generator.model.versions) system = .ok written) :
    generator.run system =
      ⟨generator.reporting (generator.messages generator.model.versions), written,
        endOfCount (generator.messages generator.model.versions).length⟩ := by
  have added : (generator.reporter.errors
      (generator.messages generator.model.versions)).count - generator.reporter.count =
        (generator.messages generator.model.versions).length := by
    rw [Reporter.count_errors, Nat.add_sub_cancel_left]
  rw [run, writeVersions_of_writes writes]
  dsimp only [reporting]
  rw [added]
  cases (generator.messages generator.model.versions).length with
  | zero => rfl
  | succ count => rfl

/--
A run ends at the first document that cannot be written, the messages of its
version being reported.
-/
theorem run_of_failure {generator : Generator} {before later : List Version} {version : Version}
    {system middle : System} {failure : Failure}
    (split : generator.model.versions = before ++ version :: later)
    (writes : writeAll (generator.files before) system = .ok middle)
    (fails : (generator.document version).2.write middle = .error failure) :
    generator.run system =
      ⟨generator.reporting (generator.messages (before ++ [version])),
        (generator.document version).2.abandon middle, some failure⟩ := by
  have stopped : generator.writeVersions system generator.model.versions =
      ⟨generator.reporting (generator.messages (before ++ [version])),
        (generator.document version).2.abandon middle, some failure⟩ := by
    have last : (generator.reporting (generator.messages before)).document version =
        (generator.reporting (generator.messages (before ++ [version])),
          (generator.document version).2) := by
      simp [messages, reporting, document, Reporter.errors, draft]
    rw [split, writeVersions_append writes, writeVersions, last]
    dsimp only
    rw [fails]
  rw [run, stopped]

/-- Documents are all written, or one cannot be after those before it were. -/
theorem writeAll_cases (files : List DocumentFile) (system : System) :
    (∃ written, writeAll files system = .ok written) ∨
      ∃ before file later middle failure, files = before ++ file :: later ∧
        writeAll before system = .ok middle ∧ file.write middle = .error failure := by
  induction files generalizing system with
  | nil => exact .inl ⟨system, rfl⟩
  | cons file rest ih =>
      cases wrote : file.write system with
      | error failure => exact .inr ⟨[], file, rest, system, failure, rfl, rfl, wrote⟩
      | ok next =>
          rcases ih next with ⟨written, writes⟩ |
            ⟨before, other, later, middle, failure, rfl, writes, fails⟩
          · exact .inl ⟨written, Description.bind_eq_ok_iff.2 ⟨next, wrote, writes⟩⟩
          · exact .inr ⟨file :: before, other, later, middle, failure, rfl,
              Description.bind_eq_ok_iff.2 ⟨next, wrote, writes⟩, fails⟩

/-- The generator for a model under the standard conventions, some messages being reported. -/
def standard (model : ApiModel) (earlier : List String) (output : String) (format : Format) :
    Generator where
  reporter := ⟨earlier⟩
  model := model
  output := output
  naming := Naming.standard
  binding := Binding.http
  packaging := Packaging.standard
  format := format

/-- Loaded versions give rise to as many messages as they count. -/
theorem length_messages_standard {model : ApiModel}
    (wellFormed : ∀ version ∈ model.versions, version.WellFormed) (earlier : List String)
    (output : String) (format : Format) :
    ((standard model earlier output format).messages model.versions).length =
      (model.versions.map problemCount).sum := by
  have each : ∀ version ∈ model.versions,
      (((standard model earlier output format).draft version).problems.map (·.message)).length =
        problemCount version := by
    intro version member
    rw [List.length_map]
    exact length_problems_specification (wellFormed version member)
  rw [messages, List.length_flatMap, List.map_congr_left each]

/--
A run for a loaded model that can write all its documents writes them, keeps
the messages there are, appends as many as the versions count and fails with
that number, unless it is zero.
-/
theorem run_standard {description : Description.ModelDescription} {model : ApiModel}
    (loaded : description.load = .ok model) (earlier : List String) (output : String)
    (format : Format) {system written : System}
    (writes : writeAll ((standard model earlier output format).files model.versions) system =
      .ok written) :
    let progress := (standard model earlier output format).run system
    let count := (model.versions.map problemCount).sum
    progress.failure = (if count = 0 then none else some (.problems count)) ∧
      progress.system = written ∧
      ∃ added, added.length = count ∧
        progress.generator.reporter.messages = earlier ++ added := by
  intro progress count
  have length : ((standard model earlier output format).messages model.versions).length = count :=
    length_messages_standard (fun _ => Description.load_wellFormed loaded) earlier output format
  have outcome : progress = _ := run_of_writes writes
  refine ⟨?_, by rw [outcome], _, length, by rw [outcome]; rfl⟩
  rw [outcome]
  exact congrArg endOfCount length

/--
Every kind of problem at once: a type named as the schema of errors in each of
two versions, an attribute without a shape, a verb taken twice, and a parameter
without a shape that is sent as well as returned.
-/
def faulty : Description.ModelDescription where
  services := [
    { name := "clusters_mgmt"
      versions := [
        { name := "v1"
          types := [
            { name := "Error", form := .enum },
            { name := "Cluster", form := .identified
              attributes := [{ name := "extra", type := "map[string][]Interface" }] }]
          resources := [
            { name := "root", locators := [{ name := "clusters", target := "Clusters" }] },
            { name := "Clusters"
              methods := [
                { name := "list" },
                { name := "get" },
                { name := "add"
                  parameters := [
                    { name := "body", type := "Interface", direction := .both }] }] }] },
        { name := "v2", types := [{ name := "Error", form := .enum }] }] }]

/-- Faulty documents can be written as well, and the problems in them are counted. -/
theorem exists_writeAll_faulty : ∃ model written, faulty.load = .ok model ∧
    writeAll ((standard model [] "out" .json).files model.versions) ⟨.directory [], []⟩ =
      .ok written ∧
    (model.versions.map problemCount).sum = 6 := by
  have accepted : faulty.load.toOption.any fun model =>
      (model.versions.map problemCount).sum == 6 &&
        (writeAll ((standard model [] "out" .json).files model.versions)
          ⟨.directory [], []⟩).toOption.any fun _ => true := by
    decide +kernel
  obtain ⟨model, loaded, outcome⟩ := Description.exists_eq_ok_of_any accepted
  obtain ⟨count, writable⟩ := Bool.and_eq_true_iff.1 outcome
  obtain ⟨written, writes, -⟩ := Description.exists_eq_ok_of_any writable
  exact ⟨model, written, loaded, writes, eq_of_beq count⟩

theorem run_standard_faulty : ∃ model written, faulty.load = .ok model ∧
    writeAll ((standard model ["earlier"] "out" .json).files model.versions)
      ⟨.directory [], []⟩ = .ok written ∧
    ((standard model ["earlier"] "out" .json).run ⟨.directory [], []⟩).failure =
      some (.problems 6) := by
  obtain ⟨model, written, loaded, writes, count⟩ := exists_writeAll_faulty
  have failure := (run_standard loaded ["earlier"] "out" .json writes).1
  rw [count] at failure
  exact ⟨model, written, loaded, writes, failure⟩

end Generator

end VersionedApi.Generation
