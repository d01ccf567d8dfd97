import VersionedApi.Description.Shape
import VersionedApi.Source.View

/-!
# Fields of descriptions

Which fields each part of a description has, which of them are mandatory, and
in which order they count where they are written without their names.
-/

namespace VersionedApi.Description

open VersionedApi.Model VersionedApi.Source

variable {node : Type} (view : View node)

/-! ## Words -/

/-- The words for the directions of a parameter, in the order in which messages list them. -/
def directionWords : List String :=
  ["in", "out", "in_out", "inout"]

def directionOfWord (text : String) : Direction :=
  if text = "in" then .inbound else if text = "out" then .outbound else .both

/-! ## Values -/

inductive ValueField where
  | name
  | doc
  | other

/-- The field of a key: its name, or its position. -/
def ValueField.ofKey? : Datum → Option ValueField
  | .text key => some (if key = "name" then .name else if key = "doc" then .doc else .other)
  | .natural position =>
    some (if position = 0 then .name else if position = 1 then .doc else .other)
  | _ => none

/-- A text, where nothing else will do. -/
def textOf? : Datum → Option String
  | .text value => some value
  | _ => none

/-- The entries of a value with documentation: each field at most once, and a name among them. -/
def documentedValue? (name doc : Option String) : List (Datum × Datum) → Option ValueDescription
  | [] => name.map fun name => ⟨name, doc.getD ""⟩
  | (key, value) :: rest =>
    match ValueField.ofKey? key with
    | none => none
    | some .other => documentedValue? name doc rest
    | some .name =>
      if name.isSome then none
      else (textOf? value).bind fun text => documentedValue? (some text) doc rest
    | some .doc =>
      if doc.isSome then none
      else (textOf? value).bind fun text => documentedValue? name (some text) rest

/-- A value of an enum: its bare name, or a record with documentation. -/
def readValue (source : node) : Reading ValueDescription := do
  let value? :=
    match ← view.datum source with
    | .text name => some ⟨name, ""⟩
    | .record entries => documentedValue? none none entries
    | _ => none
  match value? with
  | some value => return value
  | none => Reading.mismatch (.noVariant "ValueDef")

/-! ## Types -/

def readAttribute : node → Reading AttributeDescription :=
  view.record "struct AttributeDef"
    [ View.required "name" view.text fun name part => { part with name },
      View.required "type" view.text fun type part => { part with type },
      View.optional "doc" view.text fun doc part => { part with doc } ]
    {}

def readType : node → Reading TypeDescription :=
  view.record "struct TypeDef"
    [ View.required "name" view.text fun name part => { part with name },
      View.required "kind" (view.variant TypeForm.words) fun word part =>
        { part with form := TypeForm.ofWord word },
      View.optional "doc" view.text fun doc part => { part with doc },
      View.optional "values" (view.each (readValue view)) fun values part =>
        { part with values },
      View.optional "attributes" (view.each (readAttribute view)) fun attributes part =>
        { part with attributes } ]
    {}

/-! ## Resources -/

def readParameter : node → Reading ParameterDescription :=
  view.record "struct ParameterDef"
    [ View.required "name" view.text fun name part => { part with name },
      View.required "type" view.text fun type part => { part with type },
      View.optional "direction" (view.variant directionWords) fun word part =>
        { part with direction := directionOfWord word },
      View.optional "doc" view.text fun doc part => { part with doc } ]
    {}

def readMethod : node → Reading MethodDescription :=
  view.record "struct MethodDef"
    [ View.required "name" view.text fun name part => { part with name },
      View.optional "doc" view.text fun doc part => { part with doc },
      View.optional "parameters" (view.each (readParameter view)) fun parameters part =>
        { part with parameters } ]
    {}

def readLocator : node → Reading LocatorDescription :=
  view.record "struct LocatorDef"
    [ View.required "name" view.text fun name part => { part with name },
      View.required "target" view.text fun target part => { part with target },
      View.optional "variable" view.flag fun isVariable part => { part with isVariable },
      View.optional "doc" view.text fun doc part => { part with doc } ]
    {}

def readResource : node → Reading ResourceDescription :=
  view.record "struct ResourceDef"
    [ View.required "name" view.text fun name part => { part with name },
      View.optional "doc" view.text fun doc part => { part with doc },
      View.optional "methods" (view.each (readMethod view)) fun methods part =>
        { part with methods },
      View.optional "locators" (view.each (readLocator view)) fun locators part =>
        { part with locators } ]
    {}

/-! ## The whole -/

def readVersion : node → Reading VersionDescription :=
  view.record "struct VersionDef"
    [ View.required "name" view.text fun name part => { part with name },
      View.optional "doc" view.text fun doc part => { part with doc },
      View.optional "types" (view.each (readType view)) fun types part => { part with types },
      View.optional "resources" (view.each (readResource view)) fun resources part =>
        { part with resources } ]
    {}

def readService : node → Reading ServiceDescription :=
  view.record "struct ServiceDef"
    [ View.required "name" view.text fun name part => { part with name },
      View.optional "doc" view.text fun doc part => { part with doc },
      View.optional "versions" (view.each (readVersion view)) fun versions part =>
        { part with versions } ]
    {}

def readModel : node → Reading ModelDescription :=
  view.record "struct ModelFile"
    [ View.optional "services" (view.each (readService view)) fun services part =>
        { part with services } ]
    {}

end VersionedApi.Description
