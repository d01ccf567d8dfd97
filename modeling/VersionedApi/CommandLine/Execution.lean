import VersionedApi.CommandLine.Arguments
import VersionedApi.CommandLine.Summary
import VersionedApi.Description.Text
import VersionedApi.Generation.Generator
import VersionedApi.Settings

/-!
# Execution of commands

What each command does to the files, what it prints, and how it ends.  A
command that fails prints its reason and, below it, what that was caused by.
-/

namespace VersionedApi.CommandLine

open VersionedApi.Description VersionedApi.Document VersionedApi.Files VersionedApi.Generation
  VersionedApi.Model VersionedApi.OpenApi

/-! ## Outcomes -/

structure Outcome where
  code : Nat
  output : String
  remarks : String
  system : System

/-- Why a command fails, and the causes of that from the nearest on. -/
structure Complaint where
  message : String
  causes : List String
  deriving Repr, DecidableEq

namespace Complaint

/-- A text whose lines after the first are indented. -/
def hang (indent text : String) : String :=
  text.replace "\n" ("\n" ++ indent)

/-- The causes, which are numbered if there are several. -/
def describeCauses : List String → String
  | [] => ""
  | [cause] => "\n\nCaused by:\n    " ++ hang "    " cause
  | causes =>
    "\n\nCaused by:" ++
      String.join (causes.zipIdx.map fun (cause, index) =>
        let number := toString index
        "\n" ++ "".pushn ' ' (5 - number.length) ++ number ++ ": " ++ hang "       " cause)

def describe (complaint : Complaint) : String :=
  "Error: " ++ complaint.message ++ describeCauses complaint.causes ++ "\n"

/-- The outcome of a command that fails after some remarks. -/
def outcome (complaint : Complaint) (remarks : String) (system : System) : Outcome :=
  ⟨1, "", remarks ++ complaint.describe, system⟩

end Complaint

def success (output remarks : String) (system : System) : Outcome :=
  ⟨0, output, remarks, system⟩

/-! ## Models -/

/-- The format that the name of a model's file announces. -/
def announcedFormat (path : String) : Format :=
  if PathText.extension? path = some "json" then .json else .yaml

def loadModel (system : System) (path : String) : Except Complaint ApiModel :=
  match system.readFile path with
  | .error cause => .error ⟨"failed to read " ++ path, [cause.message]⟩
  | .ok text =>
    (modelOfText (announcedFormat path) text).mapError fun fault =>
      ⟨"failed to load model " ++ path, fault.message :: fault.cause?.toList⟩

/-! ## Generating -/

def failureCauses (failure : Failure) : List String :=
  match failure with
  | .write _ cause => [failure.message, cause.message]
  | _ => [failure.message]

def generate (settings : Settings) (model : ApiModel) (announcement : String) (system : System) :
    Outcome :=
  let builder : Builder :=
    { reporter := some .empty
      model := some model
      output := some settings.output
      naming := some Naming.standard
      binding := some Binding.http
      packaging := some Packaging.standard
      format := settings.format }
  match builder.build with
  | .error input => Complaint.outcome ⟨input.missingMessage, []⟩ announcement system
  | .ok generator =>
    let progress := generator.run system
    match progress.failure with
    | some failure =>
      Complaint.outcome ⟨"failed to generate OpenAPI documents", failureCauses failure⟩
        announcement progress.system
    | none =>
      success "" (announcement ++ "Generated " ++ toString model.versions.length ++
        " documents in " ++ settings.output ++ "\n") progress.system

/-- Generate with options in the place of settings. -/
def runGenerate (model output : Option String) (format : Option Format) (system : System) :
    Outcome :=
  match Settings.load system Settings.fileName with
  | .error failure => Complaint.outcome ⟨failure.message, []⟩ "" system
  | .ok found =>
    let settings := found.getD {}
    let settings : Settings :=
      { model := model.getD settings.model
        output := output.getD settings.output
        format := format.getD settings.format }
    match loadModel system settings.model with
    | .error complaint => complaint.outcome "" system
    | .ok loaded =>
      generate settings loaded
        ("Generating " ++ settings.model ++ " → " ++ settings.output ++ "\n") system

/-! ## Other commands -/

def runValidate (path : String) (system : System) : Outcome :=
  match loadModel system path with
  | .error complaint => complaint.outcome "" system
  | .ok model =>
    success ""
      ("Valid model: " ++ path ++ "\n" ++ String.join (model.services.map describeService) ++
        "Validation successful.\n") system

def runInspect (path : String) (format : Format) (system : System) : Outcome :=
  match loadModel system path with
  | .error complaint => complaint.outcome "" system
  | .ok model => success (format.render (summarize model)) "" system

def runInit (force : Bool) (system : System) : Outcome :=
  let path := Settings.fileName
  if system.exists? path && !force then
    Complaint.outcome ⟨path ++ " already exists. Use --force to overwrite.", []⟩ "" system
  else
    match system.writeFile path system.current Settings.template with
    | .error cause => Complaint.outcome ⟨cause.message, []⟩ "" system
    | .ok system => success "" ("Created " ++ path ++ "\n") system

def Command.run (command : Command) (system : System) : Outcome :=
  match command with
  | generate model output format => runGenerate model output format system
  | validate model => runValidate model system
  | inspect model format => runInspect model format system
  | init force => runInit force system

/-- Carry out what arguments ask for; unusable ones change nothing. -/
def execute (arguments : List String) (system : System) : Outcome :=
  match Command.ofArguments? arguments with
  | none => ⟨2, "", "", system⟩
  | some command => command.run system

end VersionedApi.CommandLine
