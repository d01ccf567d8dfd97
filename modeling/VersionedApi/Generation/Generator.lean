import VersionedApi.Generation.DocumentFile
import VersionedApi.Generation.Reporter
import VersionedApi.OpenApi.Specification

/-!
# Generator

A generator writes one document for every version of a model.  Problems in a
document are reported and do not stop it; a document that cannot be written
does.
-/

namespace VersionedApi.Generation

open VersionedApi.Document VersionedApi.Files VersionedApi.Model VersionedApi.OpenApi

structure Generator where
  reporter : Reporter
  model : ApiModel
  output : String
  naming : Naming
  binding : Binding
  packaging : Packaging
  format : Format

/-- A generator in the making; all but the format is mandatory. -/
structure Builder where
  reporter : Option Reporter := none
  model : Option ApiModel := none
  output : Option String := none
  naming : Option Naming := none
  binding : Option Binding := none
  packaging : Option Packaging := none
  format : Format := .json

/-- The generator, or the first mandatory input that is missing. -/
def Builder.build (builder : Builder) : Except Input Generator :=
  match builder.reporter, builder.model, builder.output.filter (!·.isEmpty), builder.naming,
    builder.binding, builder.packaging with
  | none, _, _, _, _, _ => .error .reporter
  | _, none, _, _, _, _ => .error .model
  | _, _, none, _, _, _ => .error .outputDirectory
  | _, _, _, none, _, _ => .error .namesCalculator
  | _, _, _, _, none, _ => .error .bindingCalculator
  | _, _, _, _, _, none => .error .packagesCalculator
  | some reporter, some model, some output, some naming, some binding, some packaging =>
    .ok ⟨reporter, model, output, naming, binding, packaging, builder.format⟩

namespace Generator

def draft (generator : Generator) (version : Version) : Draft FieldStep :=
  specification ⟨generator.naming, generator.binding⟩ version

/-- The document of a version, and the generator that has reported its problems. -/
def document (generator : Generator) (version : Version) : Generator × DocumentFile :=
  let draft := generator.draft version
  ({ generator with
      reporter := generator.reporter.errors (draft.problems.map (·.message)) },
    { output := generator.output
      package := generator.packaging.package version
      name := DocumentFile.defaultName
      format := generator.format
      fields := build draft.steps })

/-- The state of a generation: who reports, what was written, and what stopped it. -/
structure Progress where
  generator : Generator
  system : System
  failure : Option Failure

/-- Write the documents of versions up to the first that cannot be written. -/
def writeVersions (generator : Generator) (system : System) : List Version → Progress
  | [] => ⟨generator, system, none⟩
  | version :: rest =>
    let (generator, file) := generator.document version
    match file.write system with
    | .ok system => generator.writeVersions system rest
    | .error failure => ⟨generator, file.abandon system, some failure⟩

/--
Write the documents of every version.  The run fails if one could not be
written, or else if it reported problems; those reported before it do not
count.
-/
def run (generator : Generator) (system : System) : Progress :=
  let progress := generator.writeVersions system generator.model.versions
  match progress.failure with
  | some _ => progress
  | none =>
    match progress.generator.reporter.count - generator.reporter.count with
    | 0 => progress
    | count => { progress with failure := some (.problems count) }

end Generator

end VersionedApi.Generation
