import VersionedApi.Json.Tree
import VersionedApi.Source.View

/-!
# JSON as a source

Nothing is converted here: a text is a string, a flag is `true` or `false`.  A
record is an object, or a list of its fields in their order.  One of several
words is a string, or an object that assigns `null` to the word.
-/

namespace VersionedApi.Json

open VersionedApi.Source VersionedApi.Text

/--
How numbers are shown: with a power of ten below `1e-5` and from `1e16` on, and
halves go to an even last digit.
-/
def numberLayout : NumberLayout :=
  ⟨fun power => -5 ≤ power ∧ power < 16, .toEven⟩

def Flaw.fault (flaw : Flaw) : Fault :=
  .unreadable flaw.message

/-- Flaws that only strings have. -/
def Flaw.isOfString (flaw : Flaw) : Bool :=
  flaw ∈ [.endInString, .invalidEscape, .controlCharacter, .loneSurrogate, .cutSurrogatePair]

/-- The flaw of a key: what does not begin with a quote is not even a flawed string. -/
def Flaw.ofKey (flaw : Flaw) : Flaw :=
  if flaw.isOfString then flaw else keyNotText

/-- Flaws between a key and its value, which no value has. -/
def Flaw.isOfColon (flaw : Flaw) : Bool :=
  flaw = expectedColon || flaw = endInObject

/--
The flaw in the place of a word: what begins neither with a quote nor with a
brace is none, unless nothing has begun at all.
-/
def Flaw.ofWord (flaw : Flaw) : Flaw :=
  if flaw.isOfString || flaw.isOfColon || flaw = endBeforeValue then flaw else expectedValue

def Scalar.found : Scalar → Found
  | null => .null
  | flag value => .flag value
  | natural value => .integer value
  | negative value => .integer value
  | number value => .number (numberLayout.render value)
  | text value => .text value

namespace Tree

/-- Stop because a value is not of the type that is asked for. -/
def refuse {α : Type} (expected : String) : Tree → Reading α
  | leaf (.ok scalar) _ => Reading.mismatch (.wrongType scalar.found expected)
  | leaf (.error flaw) _ => Reading.stop flaw.fault
  | list _ _ => Reading.mismatch (.wrongType .list expected)
  | object _ _ => Reading.mismatch (.wrongType .object expected)

def text : Tree → Reading String
  | leaf (.ok (.text value)) _ => return value
  | other => other.refuse "a string"

def flag : Tree → Reading Bool
  | leaf (.ok (.flag value)) _ => return value
  | other => other.refuse "a boolean"

def word (options : List String) (value : String) : Reading String :=
  if options.contains value then return value
  else Reading.mismatch (.unknownVariant value options)

def unit : Tree → Reading Unit
  | leaf (.ok .null) _ => return ()
  | other => other.refuse "unit"

def key : Tree → Reading String
  | leaf (.ok (.text value)) _ => return value
  | leaf (.error flaw) _ => Reading.stop flaw.ofKey.fault
  | _ => Reading.stop Flaw.keyNotText.fault

def variant (options : List String) : Tree → Reading String
  | leaf (.ok (.text value)) _ => word options value
  | leaf (.ok _) _ => Reading.stop Flaw.expectedValue.fault
  | leaf (.error flaw) _ => Reading.stop flaw.ofWord.fault
  | list _ _ => Reading.stop Flaw.expectedValue.fault
  | object entries ending =>
    Reading.nested do
      match entries, ending with
      | [], none => Reading.stop Flaw.expectedValue.fault
      | [], some flaw => Reading.stop flaw.fault
      | (name, value) :: rest, ending =>
        let chosen ← word options (← name.key)
        value.unit
        match rest, ending with
        | [], none => return chosen
        | [], some .endInObject => Reading.stop Flaw.endInObject.fault
        | _, _ => Reading.stop Flaw.expectedValue.fault

def row {α : Type} (items : List α) (ending : Option Flaw) : Row α :=
  ⟨items, ending.map Flaw.fault⟩

def items : Tree → Reading (Row Tree)
  | list items ending => return row items ending
  | other => other.refuse "a sequence"

def members (label : String) : Tree → Reading (Members Tree)
  | object entries ending => return .named (row entries ending)
  | list items ending => return .positional (row items ending)
  | other => other.refuse label

def keyStep : Tree → PlaceStep
  | leaf (.ok (.text value)) _ => .key value
  | _ => .unknown

mutual

/-- The flaw that one meets who passes over a value. -/
def skipped : Tree → Option Flaw
  | leaf _ flaw => flaw
  | list items ending =>
    (skippedItems items).or (ending.map fun flaw =>
      if flaw = .trailingComma then .expectedValue else flaw)
  | object entries ending =>
    (skippedEntries entries).or (ending.map fun flaw =>
      if flaw = .trailingComma then .keyNotText
      else if flaw = .endInValue then .endInObject
      else flaw)

def skippedItems : List Tree → Option Flaw
  | [] => none
  | item :: rest => (skipped item).or (skippedItems rest)

def skippedEntries : List (Tree × Tree) → Option Flaw
  | [] => none
  | (key, value) :: rest =>
    let ofKey :=
      match key with
      | leaf (.ok (.text _)) flaw => flaw
      | leaf (.error read) flaw => if read.ofKey = Flaw.keyNotText then some .keyNotText else flaw
      | _ => some .keyNotText
    ofKey.or ((skipped value).or (skippedEntries rest))

end

def skip (tree : Tree) : Reading Unit :=
  Reading.stopAt (tree.skipped.map Flaw.fault)

mutual

def datum : Tree → Reading Datum
  | leaf (.ok (.text value)) _ => return .text value
  | leaf (.ok (.natural value)) _ => return .natural value
  | leaf (.ok _) _ => return .other
  | leaf (.error flaw) _ => Reading.stop flaw.fault
  | list items ending =>
    Reading.nested do
      datumItems items
      Reading.stopAt (ending.map Flaw.fault)
      return .other
  | object entries ending =>
    Reading.nested do
      let data ← datumEntries entries
      Reading.stopAt (ending.map Flaw.fault)
      return .record data

def datumItems : List Tree → Reading Unit
  | [] => return ()
  | item :: rest => do
    let _ ← datum item
    datumItems rest

def datumEntries : List (Tree × Tree) → Reading (List (Datum × Datum))
  | [] => return []
  | (key, value) :: rest => do
    let name ← key.key
    let first ← datum value
    return (.text name, first) :: (← datumEntries rest)

end

/-- The fault of a list that holds all fields of a record and should end. -/
def closing (rest : Row Tree) : Option Fault :=
  if rest.items.isEmpty then
    rest.ending.map fun fault =>
      if fault = Flaw.trailingComma.fault ∨ fault = Flaw.endInList.fault then fault
      else Flaw.trailingCharacters.fault
  else some Flaw.trailingCharacters.fault

def view : View Tree where
  text := text
  flag := flag
  variant := variant
  list := items
  members := members
  key := key
  keyStep := keyStep
  skip := skip
  datum := datum
  closing := closing

end Tree

def depthLimit : Nat :=
  127

/-- The wording of a fault in a JSON text, which names no place. -/
def describeFault : Fault → String
  | .unreadable message => message
  | .mismatch _ cause => cause.message "null"

def read {α : Type} (reading : Tree → Reading α) (text : String) : Except Fault α :=
  let whole := Tree.ofText text
  Reading.run (do
    let value ← reading whole.root
    Reading.stopAt (whole.trailing.map Flaw.fault)
    return value) depthLimit 0

end VersionedApi.Json
