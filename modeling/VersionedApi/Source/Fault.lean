import VersionedApi.Text.Diagnostic

/-!
# Faults of a source

Reading stops at the first fault in the order of the text.  Either the text is
not in the notation it should be in, or what it says does not have the shape
that is asked for.  Positions in the text are not part of a fault.
-/

namespace VersionedApi.Source

open VersionedApi.Text

inductive Found where
  | null
  | flag (value : Bool)
  | integer (value : Int)
  /-- An integer that takes 128 bits. -/
  | wideInteger (value : Int)
  | number (digits : String)
  | text (value : String)
  | list
  | object
  deriving Repr, DecidableEq

/-- What a message says was found; notations differ in what they call nothing. -/
def Found.describe (nothing : String) : Found → String
  | null => nothing
  | flag value => "boolean `" ++ toString value ++ "`"
  | integer value => "integer `" ++ toString value ++ "`"
  | wideInteger value =>
    "integer `" ++ toString value ++ (if value < 0 then "` as i128" else "` as u128")
  | number digits => "floating point `" ++ digits ++ "`"
  | text value => "string " ++ diagnosticQuote value
  | list => "sequence"
  | object => "map"

/-- How what a source says departs from the shape that is asked for. -/
inductive Mismatch where
  | wrongType (found : Found) (expected : String)
  | wrongValue (found : Found) (expected : String)
  | tooShort (count : Nat) (expected : String)
  | missingField (field : String)
  | repeatedField (field : String)
  | unknownVariant (variant : String) (options : List String)
  | noVariant (type : String)
  /-- A tag on data that may have several shapes. -/
  | taggedData
  deriving Repr, DecidableEq

def describeOptions (options : List String) : String :=
  let quoted := options.map fun option => "`" ++ option ++ "`"
  match quoted with
  | [] => "there are no variants"
  | [only] => "expected " ++ only
  | [first, second] => "expected " ++ first ++ " or " ++ second
  | several => "expected one of " ++ ", ".intercalate several

def Mismatch.message (nothing : String) : Mismatch → String
  | wrongType found expected =>
    "invalid type: " ++ found.describe nothing ++ ", expected " ++ expected
  | wrongValue found expected =>
    "invalid value: " ++ found.describe nothing ++ ", expected " ++ expected
  | tooShort count expected => "invalid length " ++ toString count ++ ", expected " ++ expected
  | missingField field => "missing field `" ++ field ++ "`"
  | repeatedField field => "duplicate field `" ++ field ++ "`"
  | unknownVariant variant options =>
    "unknown variant `" ++ variant ++ "`, " ++ describeOptions options
  | noVariant type => "data did not match any variant of untagged enum " ++ type
  | taggedData => "untagged and internally tagged enums do not support enum input"

inductive PlaceStep where
  | key (text : String)
  | index (position : Nat)
  /-- The value of a key that is no scalar. -/
  | unknown
  deriving Repr, DecidableEq

/-- The way from the whole source to a value in it. -/
abbrev Place := List PlaceStep

/-- The text of a place, continued from the text of the place around it. -/
def describePlace (around : Option String) : Place → Option String
  | [] => around
  | .key text :: rest =>
    describePlace (some ((around.map (· ++ ".")).getD "" ++ text)) rest
  | .index position :: rest =>
    describePlace (some (around.getD "." ++ "[" ++ toString position ++ "]")) rest
  | .unknown :: rest => describePlace (some ((around.map (· ++ ".")).getD "" ++ "?")) rest

inductive Fault where
  /-- The text is not in its notation. -/
  | unreadable (message : String)
  /-- The place is missing until something that has one passes the mismatch on. -/
  | mismatch (place : Option Place) (cause : Mismatch)
  deriving Repr, DecidableEq

namespace Fault

/-- A mismatch at the very place that is being read. -/
def here (cause : Mismatch) : Fault :=
  .mismatch (some []) cause

/-- The fault as seen from a value that the faulty one is in. -/
def under (step : PlaceStep) : Fault → Fault
  | .mismatch (some place) cause => .mismatch (some (step :: place)) cause
  | fault => fault

/-- The fault with the present place if it has none. -/
def settle : Fault → Fault
  | .mismatch none cause => .mismatch (some []) cause
  | fault => fault

end Fault

end VersionedApi.Source
