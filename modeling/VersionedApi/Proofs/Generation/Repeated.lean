import VersionedApi.Proofs.Generation.Confined

/-!
# Runs that are repeated

A run leaves documents and directories, and messages with its reporter.  None
of them matters to a further run: what was written is written again, what was
stopped is stopped again, and the messages come once more.
-/

namespace VersionedApi.Generation

open VersionedApi.Document VersionedApi.Files VersionedApi.Model VersionedApi.OpenApi

/-! ## What runs come to -/

/-- What a failure says, leaving out the cause that the file system gives. -/
inductive Verdict where
  | missing (input : Input)
  | write (path : String)
  | problems (count : Nat)
  deriving Repr, DecidableEq

def Failure.verdict : Failure → Verdict
  | missing input => .missing input
  | write path _ => .write path
  | problems count => .problems count

namespace Generator

/-- Run and run again, each time with the reporter and the files that the run before left. -/
def rerun (generator : Generator) (system : System) : Nat → Progress
  | 0 => generator.run system
  | times + 1 =>
    let last := generator.rerun system times
    last.generator.run last.system

/-- What a run says, the messages it adds and the files that are there after it. -/
structure Effect where
  verdict : Option Verdict
  messages : List String
  content : List String → Option String

structure Effect.Of (effect : Effect) (generator : Generator) (progress : Progress) : Prop where
  verdict : progress.failure.map Failure.verdict = effect.verdict
  generator : progress.generator = generator.reporting effect.messages
  content : ∀ place, progress.system.root.fileAt? place = effect.content place

variable {model : ApiModel} {output path : String} {format : Format} {version : Version}
  {system before after : System} {base : List String} {effect : Effect}

/-- From the file systems that are kept all runs have the same effect, and end at kept ones. -/
def Steady (model : ApiModel) (output : String) (format : Format) (effect : Effect)
    (kept : System → Prop) : Prop :=
  ∀ system, kept system → ∀ earlier,
    let progress := (standard model earlier output format).run system
    effect.Of (standard model earlier output format) progress ∧ kept progress.system

/-- The messages of a run are reported behind those before it. -/
theorem reporting_standard (earlier messages : List String) :
    (standard model earlier output format).reporting messages =
      standard model (earlier ++ messages) output format := rfl

/-- An effect that comes some times over: only the messages add up. -/
def Effect.repeated (effect : Effect) (times : Nat) : Effect :=
  { effect with messages := (List.replicate times effect.messages).flatten }

theorem Effect.repeated_one (effect : Effect) : effect.repeated 1 = effect := by
  simp [repeated]

theorem Effect.Of.repeated_succ {times : Nat} {start : Generator} {last next : Progress}
    (many : (effect.repeated times).Of start last) (one : effect.Of last.generator next) :
    (effect.repeated (times + 1)).Of start next := by
  refine ⟨one.verdict, ?_, one.content⟩
  rw [one.generator, many.generator, reporting_reporting]
  simp [repeated, List.replicate_succ']

/-- Repeated runs have the effect of one as many times over. -/
theorem Steady.rerun {kept : System → Prop} (steady : Steady model output format effect kept)
    (holds : kept system) (earlier : List String) (times : Nat) :
    let last := (standard model earlier output format).rerun system times
    (effect.repeated (times + 1)).Of (standard model earlier output format) last ∧
      kept last.system := by
  induction times with
  | zero =>
      rw [zero_add, effect.repeated_one]
      exact steady system holds earlier
  | succ times ih =>
      obtain ⟨many, lastKept⟩ := ih
      obtain ⟨one, nextKept⟩ := steady _ lastKept
        (earlier ++ (effect.repeated (times + 1)).messages)
      rw [← reporting_standard, ← many.generator] at one nextKept
      exact ⟨many.repeated_succ one, nextKept⟩

/-! ## Below an output directory that is there -/

/-- Documents that are written once more change nothing. -/
theorem overlay_overlay (base : List String) (files : List DocumentFile) (place : List String)
    (present : Option String) :
    overlay base files place (overlay base files place present) =
      overlay base files place present := by
  by_cases like : ∃ file ∈ files, place = base ++ file.place
  · exact overlay_of_like like _ _
  · exact overlay_of_unlike (fun file member same => like ⟨file, member, same⟩) _

/--
A file system that stops the documents of a model as another does, and in which
some of them leave the same files when they are written.
-/
structure Alike (model : ApiModel) (output : String) (format : Format) (base : List String)
    (written : List Version) (before system : System) : Prop where
  located : system.locate output = .ok base
  there : system.root.HasDirectory base
  stops : ∀ version ∈ model.versions, ∀ path,
    (documentFile output format version).Stops base system path ↔
      (documentFile output format version).Stops base before path
  content : ∀ place,
    overlay base (written.map (documentFile output format)) place (system.root.fileAt? place) =
      overlay base (written.map (documentFile output format)) place (before.root.fileAt? place)

namespace Alike

variable {written : List Version}

theorem refl (located : system.locate output = .ok base) (there : system.root.HasDirectory base) :
    Alike model output format base written system system :=
  ⟨located, there, fun _ _ _ => Iff.rfl, fun _ => rfl⟩

/-- Writing the documents leaves a file system that is still alike. -/
theorem wrote (alike : Alike model output format base written before system)
    (spelled : Spelled model.versions) (among : ∀ version ∈ written, version ∈ model.versions)
    (wrote : Wrote (written.map (documentFile output format)) base system after) :
    Alike model output format base written before after where
  located := System.locate_of_hasDirectory wrote.current wrote.directories alike.located
  there := wrote.directories base alike.there
  stops := by
    intro version member path
    have orderlies := orderly_of_spelled output format
      fun other listed => spelled other (among other listed)
    obtain ⟨service, name⟩ := spelled version member
    exact (DocumentFile.stops_iff_of_wrote orderlies
      (orderly_documentFile output format service name) wrote).trans
        (alike.stops version member path)
  content := by
    intro place
    rw [wrote.content, overlay_overlay, alike.content]

/-- Giving up a document leaves a file system that is still alike. -/
theorem abandon (alike : Alike model output format base written before system)
    (spelled : Spelled model.versions) (member : version ∈ model.versions) :
    Alike model output format base written before
      ((documentFile output format version).abandon system) := by
  obtain ⟨current, files, directories⟩ := System.keeps_beginDirectories system
    (documentFile output format version).directory
  have orderly : ∀ other ∈ model.versions, (documentFile output format other).Orderly output :=
    fun other listed =>
      orderly_documentFile output format (spelled other listed).1 (spelled other listed).2
  constructor
  · exact System.locate_of_hasDirectory current directories alike.located
  · exact directories base alike.there
  · intro other listed path
    exact (DocumentFile.stops_iff_of_abandon (orderly version member) (orderly other listed)
      alike.located alike.there).trans (alike.stops other listed path)
  · intro place
    rw [← alike.content place]
    exact congrArg _ (files place)

end Alike

/-- Runs are stopped at the same document each time. -/
theorem steady_of_stops {before later : List Version} (spelled : Spelled model.versions)
    (split : model.versions = before ++ version :: later)
    (clear : ∀ other ∈ before, ∀ path,
      ¬ (documentFile output format other).Stops base system path)
    (stops : (documentFile output format version).Stops base system path) :
    Steady model output format
      { verdict := some (.write path)
        messages := (standard model [] output format).messages (before ++ [version])
        content := fun place => overlay base (before.map (documentFile output format)) place
          (system.root.fileAt? place) }
      (Alike model output format base before system) := by
  intro start alike earlier
  have among : ∀ other ∈ before, other ∈ model.versions := fun other member =>
    split ▸ List.mem_append_left _ member
  have member : version ∈ model.versions := split ▸ List.mem_append_right _ List.mem_cons_self
  obtain ⟨middle, cause, wrote, outcome⟩ := run_of_stops spelled alike.located alike.there split
    (fun other listed path stopped =>
      clear other listed path ((alike.stops other (among other listed) path).1 stopped))
    ((alike.stops version member path).2 stops) earlier
  have alikeAfter := (alike.wrote spelled among wrote).abandon spelled member
  have files := (System.keeps_beginDirectories middle
    (documentFile output format version).directory).2.1
  rw [outcome]
  refine ⟨⟨rfl, rfl, fun place => ?_⟩, alikeAfter⟩
  exact (files place).trans ((wrote.content place).trans (alike.content place))

/-- Runs that are not stopped write all documents each time. -/
theorem steady_of_clear (spelled : Spelled model.versions)
    (clear : ∀ version ∈ model.versions, ∀ path,
      ¬ (documentFile output format version).Stops base system path) :
    ∃ effect, Steady model output format effect
      (Alike model output format base model.versions system) := by
  refine ⟨{
    verdict := (endOfCount
      ((standard model [] output format).messages model.versions).length).map Failure.verdict
    messages := (standard model [] output format).messages model.versions
    content := fun place => overlay base (model.versions.map (documentFile output format)) place
      (system.root.fileAt? place) }, ?_⟩
  intro start alike earlier
  obtain ⟨written, wrote, outcome⟩ := run_of_clear spelled alike.located alike.there
    (fun version member path stopped =>
      clear version member path ((alike.stops version member path).1 stopped)) earlier
  rw [outcome]
  exact ⟨⟨rfl, rfl, fun place => (wrote.content place).trans (alike.content place)⟩,
    alike.wrote spelled (fun _ => id) wrote⟩

theorem exists_steady_of_located (format : Format) (spelled : Spelled model.versions)
    (located : system.locate output = .ok base) (there : system.root.HasDirectory base) :
    ∃ effect kept, kept system ∧ Steady model output format effect kept := by
  by_cases clear : ∀ version ∈ model.versions, ∀ path,
      ¬ (documentFile output format version).Stops base system path
  · obtain ⟨effect, steady⟩ := steady_of_clear spelled clear
    exact ⟨effect, _, .refl located there, steady⟩
  · push Not at clear
    obtain ⟨before, version, later, split, ⟨path, stops⟩, free⟩ := exists_first clear
    exact ⟨_, _, .refl located there, steady_of_stops spelled split
      (fun other member path stopped => free other member ⟨path, stopped⟩) stops⟩

end Generator

/-! ## Below an output directory that is missing -/

namespace DocumentFile

variable {file : DocumentFile} {system : System} {failure : Failure}

theorem abandon_abandon (file : DocumentFile) (system : System) :
    file.abandon (file.abandon system) = file.abandon system :=
  System.beginDirectories_again system file.directory

/-- A document that cannot be written cannot be when its directory has been begun. -/
theorem write_abandon (fails : file.write system = .error failure) :
    ∃ again, file.write (file.abandon system) = .error again ∧ again.verdict = failure.verdict := by
  unfold write at fails ⊢
  cases made : system.makeDirectories file.directory with
  | error cause =>
      rw [made] at fails
      cases retried : (file.abandon system).makeDirectories file.directory with
      | error other =>
          obtain rfl := Except.error.inj fails
          exact ⟨_, rfl, rfl⟩
      | ok reached =>
          obtain ⟨after, before⟩ := System.makeDirectories_of_beginDirectories retried
          rw [made] at before
          cases before
  | ok reached =>
      obtain ⟨middle, place⟩ := reached
      rw [made] at fails
      rw [abandon, System.beginDirectories_of_makeDirectories made,
        System.makeDirectories_again made]
      exact ⟨failure, fails, rfl⟩

end DocumentFile

namespace Generator

variable {model : ApiModel} {output : String} {format : Format} {version : Version}
  {rest : List Version} {system ready next : System} {failure : Failure}

theorem reporting_nil (generator : Generator) : generator.reporting [] = generator := by
  simp [reporting, Reporter.errors]

/-- A run for a model without versions does nothing. -/
theorem run_of_nil {generator : Generator} (versions : generator.model.versions = []) :
    generator.run system = ⟨generator, system, none⟩ := by
  rw [run, versions, writeVersions]
  simp

/-- Runs whose first write leaves the same are the same. -/
theorem run_congr {generator : Generator} (versions : generator.model.versions = version :: rest)
    (here : (generator.document version).2.write system = .ok next)
    (there : (generator.document version).2.write ready = .ok next) :
    generator.run system = generator.run ready := by
  have same : generator.writeVersions system (version :: rest) =
      generator.writeVersions ready (version :: rest) := by
    rw [writeVersions, writeVersions]
    dsimp only
    rw [here, there]
  rw [run, run, versions, same]

/-- Runs whose first write fails leave the directories that could be made. -/
theorem steady_of_failure (versions : model.versions = version :: rest)
    (fails : (documentFile output format version).write system = .error failure) :
    Steady model output format
      { verdict := some failure.verdict
        messages := (standard model [] output format).messages [version]
        content := system.root.fileAt? }
      (fun start =>
        start = system ∨ start = (documentFile output format version).abandon system) := by
  have files :=
    (System.keeps_beginDirectories system (documentFile output format version).directory).2.1
  intro start kept earlier
  have outcome {start : System} {failure : Failure}
      (fails : (documentFile output format version).write start = .error failure) :
      (standard model earlier output format).run start =
        ⟨_, (documentFile output format version).abandon start, some failure⟩ :=
    run_of_failure (show model.versions = [] ++ version :: rest from versions)
      (rfl : writeAll [] start = .ok start) fails
  rcases kept with rfl | rfl
  · rw [outcome fails]
    exact ⟨⟨rfl, rfl, files⟩, .inr rfl⟩
  · obtain ⟨again, failsAgain, same⟩ := DocumentFile.write_abandon fails
    rw [outcome failsAgain]
    have stays := DocumentFile.abandon_abandon (documentFile output format version) system
    exact ⟨⟨congrArg some same, rfl,
      fun place => (congrArg (·.root.fileAt? place) stays).trans (files place)⟩, .inr stays⟩

theorem exists_steady (spelled : Spelled model.versions) (given : output ≠ "") (format : Format)
    (started : system.root.HasDirectory (system.start output)) :
    ∃ effect kept, kept system ∧ Steady model output format effect kept := by
  cases versions : model.versions with
  | nil =>
      refine ⟨⟨none, [], system.root.fileAt?⟩, (· = system), rfl, ?_⟩
      intro start same earlier
      obtain rfl : start = system := same
      rw [run_of_nil versions]
      exact ⟨⟨rfl, (reporting_nil _).symm, fun _ => rfl⟩, rfl⟩
  | cons version rest =>
      cases wrote : (documentFile output format version).write system with
      | error failure => exact ⟨_, _, .inl rfl, steady_of_failure versions wrote⟩
      | ok next =>
          have descends := descends_documentFile output format
            (spelled version (by simp [versions])).1 (spelled version (by simp [versions])).2
          obtain ⟨ready, base, located, there, -, again⟩ :=
            DocumentFile.exists_ready descends given started wrote
          obtain ⟨effect, kept, holds, steady⟩ :=
            exists_steady_of_located format spelled located there
          refine ⟨effect, fun start => start = system ∨ kept start, .inl rfl, ?_⟩
          intro start keeps earlier
          rcases keeps with rfl | keeps
          · have same : (standard model earlier output format).run start = _ :=
              run_congr versions wrote again
            obtain ⟨run, after⟩ := steady ready holds earlier
            rw [same]
            exact ⟨run, .inr after⟩
          · obtain ⟨run, after⟩ := steady start keeps earlier
            exact ⟨run, .inr after⟩

/--
Running a loaded model again and again is as running it once: every run says the
same, whatever was reported before, and leaves the same files, and each adds the
same messages.  This holds of every file system with a directory to start from,
of runs that report problems and of runs that are stopped.
-/
theorem run_standard_repeated {description : Description.ModelDescription}
    (loaded : description.load = .ok model) (given : output ≠ "") (format : Format)
    (system : System) (started : system.root.HasDirectory (system.start output))
    (earlier : List String) (times : Nat) :
    let first := (standard model [] output format).run system
    let last := (standard model earlier output format).rerun system times
    last.failure.map Failure.verdict = first.failure.map Failure.verdict ∧
      (∀ place, last.system.root.fileAt? place = first.system.root.fileAt? place) ∧
      last.generator.reporter.messages =
        earlier ++ (List.replicate (times + 1) first.generator.reporter.messages).flatten := by
  intro first last
  obtain ⟨effect, kept, holds, steady⟩ :=
    exists_steady (fun _ => spelled_of_load loaded) given format started
  obtain ⟨once, -⟩ := steady system holds []
  obtain ⟨many, -⟩ := steady.rerun holds earlier times
  refine ⟨many.verdict.trans once.verdict.symm,
    fun place => (many.content place).trans (once.content place).symm, ?_⟩
  have messages : first.generator.reporter.messages = effect.messages := by
    rw [once.generator]
    rfl
  rw [messages, many.generator]
  rfl

/-- The third run for a model with problems, where there was no output directory to begin with. -/
theorem run_standard_repeated_faulty : ∃ model, faulty.load = .ok model ∧ "out" ≠ "" ∧
    (Tree.directory []).HasDirectory (System.start ⟨.directory [], []⟩ "out") ∧
    let last := (standard model ["earlier"] "out" .json).rerun ⟨.directory [], []⟩ 2
    last.failure.map Failure.verdict = some (.problems 6) ∧
      last.generator.reporter.messages.length = 19 := by
  obtain ⟨model, written, loaded, writes, count⟩ := exists_writeAll_faulty
  have six : ((standard model [] "out" .json).messages model.versions).length = 6 :=
    (length_messages_standard (fun _ => Description.load_wellFormed loaded) [] "out" .json).trans
      count
  have given : "out" ≠ "" := by decide
  obtain ⟨same, -, messages⟩ := run_standard_repeated loaded given .json ⟨.directory [], []⟩ rfl
    ["earlier"] 2
  rw [run_of_writes writes] at same messages
  refine ⟨model, loaded, given, rfl, ?_, ?_⟩
  · exact same.trans (congrArg (fun count => (endOfCount count).map Failure.verdict) six)
  · rw [messages]
    change (["earlier"] ++ (List.replicate 3
      ((standard model [] "out" .json).messages model.versions)).flatten).length = 19
    simp [six]

end Generator

end VersionedApi.Generation
