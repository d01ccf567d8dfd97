import VersionedApi.Description.Fields
import VersionedApi.Description.Loading
import VersionedApi.Document.Format
import VersionedApi.Json.View
import VersionedApi.Yaml.View

/-!
# Models from texts

A model is read from a description in YAML or JSON: the text first becomes a
description, and the description a model.
-/

namespace VersionedApi.Description

open VersionedApi.Document VersionedApi.Model VersionedApi.Source

def formatLabel : Format → String
  | .json => "JSON"
  | .yaml => "YAML"

def describeFault : Format → Fault → String
  | .json => Json.describeFault
  | .yaml => Yaml.describeFault

def ModelDescription.ofText (format : Format) (text : String) : Except Fault ModelDescription :=
  match format with
  | .json => Json.read (readModel Json.Tree.view) text
  | .yaml => Yaml.read (fun view => readModel view) text

/-- Why a text is no model. -/
inductive TextFault where
  | unreadable (format : Format) (fault : Fault)
  | unloadable (fault : LoadFault)
  deriving Repr, DecidableEq

namespace TextFault

/-- The fault of a text by itself, where a message about the model has it as its cause. -/
def cause? : TextFault → Option String
  | unreadable format fault => some (describeFault format fault)
  | unloadable _ => none

def message : TextFault → String
  | unreadable format fault =>
    "failed to parse " ++ formatLabel format ++ ": " ++ describeFault format fault
  | unloadable fault => fault.message

end TextFault

def modelOfText (format : Format) (text : String) : Except TextFault ApiModel :=
  match ModelDescription.ofText format text with
  | .error fault => .error (.unreadable format fault)
  | .ok description => description.load.mapError .unloadable

end VersionedApi.Description
