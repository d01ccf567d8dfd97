import VersionedApi.Source.View
import VersionedApi.Yaml.Composition
import VersionedApi.Yaml.Plain

/-!
# YAML as a source

A scalar is a text however it is written; only where a flag or nothing is asked
for, and in messages, does it count what the scalar denotes.  A node that is
not written is an empty text, list or record.  One of several words may also be
written as a tag.
-/

namespace VersionedApi.Yaml

open VersionedApi.Source VersionedApi.Text

/-- How numbers are shown: never with a power of ten, and halves go away from zero. -/
def numberLayout : NumberLayout :=
  ⟨fun _ => true, .awayFromZero⟩

/-! ## What scalars denote -/

def Plain.found (plain : Plain) (text : String) : Found :=
  match plain with
  | .null => .null
  | .flag value => .flag value
  | .natural value => .integer value
  | .negative value => .integer value
  | .wide value => .wideInteger value
  | .number value => .number (numberLayout.render value)
  | .text => .text text

/-- What a scalar denotes, or the mismatch between its tag and its text. -/
def denoted (tag : Option TagText) (text : String) (style : ScalarStyle) :
    Except Mismatch Found :=
  let bare : Found := if style = .plain then (Plain.ofText text).found text else .text text
  let refused (expected : String) : Except Mismatch Found :=
    .error (.wrongValue (.text text) expected)
  match tag with
  | none => .ok bare
  | some tag =>
    match tag.text? with
    | some "tag:yaml.org,2002:bool" =>
      match Plain.flag? text with
      | some value => .ok (.flag value)
      | none => refused "a boolean"
    | some "tag:yaml.org,2002:int" =>
      match Plain.ofText text with
      | .natural value => .ok (.integer value)
      | .negative value => .ok (.integer value)
      | .wide value => .ok (.wideInteger value)
      | _ => refused "an integer"
    | some "tag:yaml.org,2002:float" =>
      match Plain.number? text.toList with
      | some value => .ok (.number (numberLayout.render value))
      | none => refused "a float"
    | some "tag:yaml.org,2002:null" =>
      if Plain.isNull text then .ok .null else refused "null"
    | _ => .ok (if tag.isOwn then bare else .text text)

/--
The word that a tag of one's own stands for: what follows the exclamation mark,
or the mark if nothing does.  A tag that is no text stands for no word.
-/
def tagWord? (tag : Option TagText) : Option String :=
  match (tag.bind TagText.text?).map String.toList with
  | some ['!'] => some "!"
  | some ('!' :: word) => some (String.ofList word)
  | _ => none

namespace Node

/-! ## Parts of the view -/

abbrev Anchors := List (Nat × Node)

/-- The node that an alias refers to: the last one under its number. -/
def follow (anchors : Anchors) : Node → Reading Node
  | aliasOf anchor => do
    Reading.followReference
    match anchors.reverse.lookup anchor with
    | some node => return node
    | none => Reading.stop (.unreadable "unresolved alias")
  | node => return node

/-- A node that is not written, or a plain scalar without text. -/
def isEmpty : Node → Bool
  | scalar _ text .plain => text.isEmpty
  | _ => false

/-- Stop because a node is not of the type that is asked for. -/
def refuse {α : Type} (expected : String) : Node → Reading α
  | scalar properties text style =>
    match denoted properties.tag text style with
    | .ok found => Reading.stop (.here (.wrongType found expected))
    | .error cause => Reading.stop (.here cause)
  | sequence _ _ _ => Reading.stop (.here (.wrongType .list expected))
  | mapping _ _ _ => Reading.stop (.here (.wrongType .object expected))
  | aliasOf _ => Reading.stop (.unreadable "unresolved alias")
  | cut fault => Reading.stop fault

def text (anchors : Anchors) (node : Node) : Reading String := do
  match ← node.follow anchors with
  | scalar _ text _ => return text
  | other => other.refuse "a string"

/-- A truth value, which is written plainly or as a literal block with its tag. -/
def flag (anchors : Anchors) (node : Node) : Reading Bool := do
  let node ← node.follow anchors
  let written? :=
    match node with
    | scalar _ text .plain => some text
    | scalar ⟨some tag, _⟩ text .literal =>
      if tag = TagText.ofString "tag:yaml.org,2002:bool" then some text else none
    | _ => none
  match written?.bind Plain.flag? with
  | some value => return value
  | none => node.refuse "a boolean"

/-- The value behind a tag that says everything. -/
def unit : Node → Reading Unit
  | scalar _ text style =>
    if style == .plain && (text.isEmpty || Plain.isNull text) then return ()
    else Reading.stop (.here (.wrongValue (.text text) "null"))
  | other => other.refuse "unit"

def word (options : List String) (value : String) : Reading String :=
  if options.contains value then return value
  else Reading.mismatch (.unknownVariant value options)

def taggedWord (options : List String) (value : String) (node : Node) : Reading String := do
  let chosen ← word options value
  node.unit
  return chosen

def writtenVariant (options : List String) (node : Node) : Reading String :=
  let refused (found : Found) : Reading String :=
    Reading.stop (.here (.wrongType found "a YAML tag starting with '!'"))
  match node with
  | scalar properties text _ =>
    match tagWord? properties.tag with
    | some value => taggedWord options value node
    | none => Reading.settle (word options text)
  | sequence properties _ _ =>
    match tagWord? properties.tag with
    | some value => taggedWord options value node
    | none => refused .list
  | mapping properties _ _ =>
    match tagWord? properties.tag with
    | some value => taggedWord options value node
    | none => refused .object
  | other => other.refuse "a string"

/-- One of several words.  An unknown tag is at fault where an alias refers to it. -/
def variant (anchors : Anchors) (options : List String) : Node → Reading String
  | aliasOf anchor =>
    Reading.settle do (← (aliasOf anchor).follow anchors).writtenVariant options
  | node => node.writtenVariant options

def items (anchors : Anchors) (node : Node) : Reading (Row Node) := do
  let node ← node.follow anchors
  match node with
  | sequence _ items ending => return ⟨items, ending⟩
  | other => if other.isEmpty then return ⟨[], none⟩ else other.refuse "a sequence"

def members (anchors : Anchors) (label : String) (node : Node) : Reading (Members Node) := do
  let node ← node.follow anchors
  match node with
  | mapping _ entries ending => return .named ⟨entries, ending⟩
  | other => if other.isEmpty then return .named ⟨[], none⟩ else other.refuse label

def key (anchors : Anchors) (node : Node) : Reading String := do
  match ← node.follow anchors with
  | scalar _ text _ => return text
  | other => other.refuse "field identifier"

/-- The step to the value of a key; an alias does not show its text. -/
def keyStep : Node → PlaceStep
  | scalar _ text _ => .key text
  | _ => .unknown

mutual

/-- The fault that one meets who passes over a node. -/
def cutFault? : Node → Option Fault
  | scalar _ _ _ => none
  | sequence _ items ending => (cutFaultOfItems? items).or ending
  | mapping _ entries ending => (cutFaultOfEntries? entries).or ending
  | aliasOf _ => none
  | cut fault => some fault

def cutFaultOfItems? : List Node → Option Fault
  | [] => none
  | item :: rest => (cutFault? item).or (cutFaultOfItems? rest)

def cutFaultOfEntries? : List (Node × Node) → Option Fault
  | [] => none
  | (key, value) :: rest =>
    (cutFault? key).or ((cutFault? value).or (cutFaultOfEntries? rest))

end

def skip (node : Node) : Reading Unit :=
  Reading.stopAt node.cutFault?

def scalarDatum (tag : Option TagText) (text : String) (style : ScalarStyle) : Reading Datum :=
  if (tagWord? tag).isSome then Reading.stop (.here .taggedData)
  else
    match denoted tag text style with
    | .error cause => Reading.stop (.here cause)
    | .ok (.text value) => return .text value
    | .ok (.integer (.ofNat value)) =>
      if text.toList.head? = some '-' then return .other else return .natural value
    | .ok (.wideInteger value) =>
      Reading.stop (.here (.wrongType (.wideInteger value) "any value"))
    | .ok _ => return .other

/-- A node of any shape.  `fuel` bounds the depth, which aliases can make endless. -/
def datum (anchors : Anchors) : Nat → Node → Reading Datum
  | 0, _ => Reading.stop (.unreadable "recursion limit exceeded")
  | fuel + 1, node => do
    match ← node.follow anchors with
    | scalar properties text style => scalarDatum properties.tag text style
    | sequence properties items ending =>
      if (tagWord? properties.tag).isSome then Reading.stop (.here .taggedData)
      else
        Reading.nested do
          for (item, index) in items.zipIdx do
            let _ ← Reading.under (.index index) (datum anchors fuel item)
          Reading.stopAt ending
          return .other
    | mapping properties entries ending =>
      if (tagWord? properties.tag).isSome then Reading.stop (.here .taggedData)
      else
        Reading.nested do
          let data ← entries.mapM fun (key, value) => do
            let name ← datum anchors fuel key
            let first ← Reading.under (keyStep key) (datum anchors fuel value)
            return (name, first)
          Reading.stopAt ending
          return .record data
    | other => other.refuse "any value"

/-- Levels of nesting that a YAML text may have. -/
def depthLimit : Nat :=
  128

def view (anchors : Anchors) : View Node where
  text := text anchors
  flag := flag anchors
  variant := variant anchors
  list := items anchors
  members := members anchors
  key := key anchors
  keyStep := keyStep
  skip := skip
  datum := datum anchors (depthLimit + 1)
  closing := fun rest => rest.ending

end Node

/-! ## Whole texts -/

/-- The wording of a fault in a YAML text, behind its place. -/
def describeFault : Fault → String
  | .unreadable message => message
  | .mismatch place cause =>
    match (place.bind (describePlace none)) with
    | none => cause.message "unit value"
    | some text => text ++ ": " ++ cause.message "unit value"

def read {α : Type} (reading : View Node → Node → Reading α) (text : String) : Except Fault α :=
  let whole := Whole.ofText text
  let view := Node.view whole.root.anchored
  Reading.run (do
    let value ← reading view whole.root
    Reading.stopAt whole.trailing
    return value) Node.depthLimit (100 * whole.root.extent.events)

end VersionedApi.Yaml
