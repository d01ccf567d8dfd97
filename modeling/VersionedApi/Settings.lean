import VersionedApi.Document.Format
import VersionedApi.Files.System
import VersionedApi.Source.View
import VersionedApi.Yaml.View

/-!
# Settings

A project may keep its settings in a file beside its model: where the model is,
where the documents go, and their format.  Everything has a default.
-/

namespace VersionedApi

open VersionedApi.Document VersionedApi.Files VersionedApi.Source

structure Settings where
  model : String := "model.yaml"
  output : String := "output"
  format : Format := .json
  deriving Repr, DecidableEq

namespace Settings

def fileName : String :=
  ".mmg.yaml"

/-- What a new file holds: the defaults, with a comment on each. -/
def template : String :=
  "# mmg configuration\n" ++
  "model: model.yaml     # model description (YAML or JSON)\n" ++
  "output: output        # documents land in <output>/<package>/openapi.<format>\n" ++
  "format: json          # json | yaml\n"

/-- The words for the formats, in the order in which messages list them. -/
def formatWords : List String :=
  ["json", "yaml"]

def formatOfWord (word : String) : Format :=
  if word = "yaml" then .yaml else .json

/-- Settings, each of which may be missing. -/
def read {node : Type} (view : View node) : node → Reading Settings :=
  view.record "struct MmgConfig"
    [ View.optional "model" view.text fun model settings => { settings with model },
      View.optional "output" view.text fun output settings => { settings with output },
      View.optional "format" (view.variant formatWords) fun word settings =>
        { settings with format := formatOfWord word } ]
    {}

/-- Why there are no settings although there is a file. -/
inductive Failure where
  | unreadable (path : String) (cause : String)
  | invalid (path : String) (fault : Fault)
  deriving Repr, DecidableEq

def Failure.message : Failure → String
  | unreadable path cause => "failed to read config " ++ path ++ ": " ++ cause
  | invalid path fault => "failed to parse config " ++ path ++ ": " ++ Yaml.describeFault fault

def ofText (path text : String) : Except Failure Settings :=
  (Yaml.read (fun view => read view) text).mapError (.invalid path)

def ofBytes (path : String) (bytes : ByteArray) : Except Failure Settings :=
  match String.fromUTF8? bytes with
  | none => .error (.unreadable path "stream did not contain valid UTF-8")
  | some text => ofText path text

/-- The settings in a file that may be missing. -/
def load (system : System) (path : String) : Except Failure (Option Settings) :=
  if !system.exists? path then .ok none
  else
    match system.readFile path with
    | .error cause => .error (.unreadable path cause.message)
    | .ok text => (ofText path text).map some

end Settings

end VersionedApi
