import VersionedApi.Text.Decimal

/-!
# Plain scalars

A YAML scalar written without quotes may denote something else than its text:
nothing at all, a truth value or a number.  A reader decides by these rules,
and a writer quotes the texts that they would take for something else.
-/

namespace VersionedApi.Yaml

open VersionedApi.Text

inductive Plain where
  | null
  | flag (value : Bool)
  /-- An integer from 0 to 2^64 - 1. -/
  | natural (value : Nat)
  /-- Any other integer down to -2^63. -/
  | negative (value : Int)
  /-- An integer that only 128 bits hold. -/
  | wide (value : Int)
  | number (value : Float)
  | text
  deriving Repr

namespace Plain

def flag? (text : String) : Option Bool :=
  if text ∈ ["true", "True", "TRUE"] then some true
  else if text ∈ ["false", "False", "FALSE"] then some false
  else none

/-- The spellings of nothing, the empty one aside. -/
def isNull (text : String) : Bool :=
  text ∈ ["null", "Null", "NULL", "~"]

/-- Digits after a needless zero: such a row of digits is a text. -/
def hasLeadingZero (text : List Char) : Bool :=
  match (Decimal.splitSign text).2 with
  | '0' :: second :: rest => (second :: rest).all Char.isDigit
  | _ => false

/-- The radix that two characters announce, and the digits after them. -/
def announcedRadix : List Char → Nat × List Char
  | '0' :: 'x' :: rest => (16, rest)
  | '0' :: 'o' :: rest => (8, rest)
  | '0' :: 'b' :: rest => (2, rest)
  | digits => (10, digits)

def announced? (whole digits : List Char) : Option Nat :=
  let (radix, rest) := announcedRadix digits
  if radix = 10 ∧ hasLeadingZero whole then none else digits? radix rest

/-- The integer that a text spells: digits behind at most one sign. -/
def integer? (text : List Char) : Option Int :=
  match text with
  | '-' :: digits => (announced? text digits).map fun value => -(value : Int)
  | '+' :: digits => (announced? text digits).map Int.ofNat
  | digits => (announced? text digits).map Int.ofNat

/-- The number that a text spells with a point, an exponent or too many digits. -/
def number? (text : List Char) : Option Float :=
  match String.ofList text with
  | ".inf" | ".Inf" | ".INF" | "+.inf" | "+.Inf" | "+.INF" => some (1 / 0)
  | "-.inf" | "-.Inf" | "-.INF" => some (-1 / 0)
  | ".nan" | ".NaN" | ".NAN" => some (0 / 0)
  | _ => (Decimal.read? text).bind fun decimal =>
      let value := decimal.toFloat
      if value.isFinite then some value else none

/-- An integer by its size; one that 128 bits do not hold is none. -/
def ofInteger? (signed : Bool) (value : Int) : Option Plain :=
  if signed then
    if -(Int.pow 2 63) ≤ value then some (.negative value)
    else if -(Int.pow 2 127) ≤ value then some (.wide value)
    else none
  else
    if value < Int.pow 2 64 then some (.natural value.toNat)
    else if value < Int.pow 2 128 then some (.wide value)
    else none

def ofText (text : String) : Plain :=
  let characters := text.toList
  if text.isEmpty || isNull text then .null
  else
    match flag? text with
    | some value => .flag value
    | none =>
      match (integer? characters).bind (ofInteger? (characters.head? == some '-')) with
      | some plain => plain
      | none =>
        if hasLeadingZero characters then .text
        else
          match number? characters with
          | some value => .number value
          | none => .text

/-- Whether a reader takes the plain scalar for its text and nothing else. -/
def isText (text : String) : Bool :=
  match ofText text with
  | .text => !hasLeadingZero text.toList
  | _ => false

end Plain

end VersionedApi.Yaml
