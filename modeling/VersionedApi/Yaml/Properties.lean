import VersionedApi.Text.Decimal
import VersionedApi.Yaml.Cursor
import VersionedApi.Yaml.Token

/-!
# Anchors, tags and directives

The parts of a YAML text that begin with `&`, `*`, `!` or `%`.
-/

namespace VersionedApi.Yaml

open VersionedApi.Text

namespace Scan

/-! ## Anchors and aliases -/

/-- What may follow the name of an anchor or alias without a blank. -/
def endsAnchor (next : Option Char) : Bool :=
  isBlankOrEnd next || next.any fun c => c ∈ ['?', ':', ',', ']', '}', '%', '@', '`']

def anchorName (activity : String) : Scan String := do
  advance 1
  let name ← takeWhile isWordCharacter
  if name.isEmpty || !endsAnchor (← peek) then
    stop "did not find expected alphabetic or numeric character" activity
  return String.ofList name

/-! ## Tags -/

/-- Where a tag stands, which messages tell. -/
inductive TagPlace where
  | node
  | directive
  deriving DecidableEq

def TagPlace.activity : TagPlace → String
  | node => "while parsing a tag"
  | directive => "while parsing a %TAG directive"

/-- Characters of a tag that stand for themselves; brackets and commas need the long form. -/
def isTagCharacter (bracketed : Bool) (c : Char) : Bool :=
  isWordCharacter c ||
    c ∈ [';', '/', '?', ':', '@', '&', '=', '+', '$', '.', '!', '~', '*', '\'', '(', ')'] ||
    (bracketed && c ∈ [',', '[', ']'])

def escapedOctet? : List Char → Option Nat
  | '%' :: high :: low :: _ => digits? 16 [high, low]
  | _ => none

/-- How many octets a leading octet announces, itself included. -/
def octetCount (octet : Nat) : Nat :=
  if octet < 0x80 then 1
  else if 0xC0 ≤ octet ∧ octet < 0xE0 then 2
  else if 0xE0 ≤ octet ∧ octet < 0xF0 then 3
  else if 0xF0 ≤ octet ∧ octet < 0xF8 then 4
  else 0

def trailingOctets (place : TagPlace) : Nat → Scan TagText
  | 0 => return []
  | count + 1 => do
    match escapedOctet? (← get).ahead with
    | none => stop "did not find URI escaped octet" place.activity
    | some octet =>
      if octet / 64 ≠ 2 then
        stop "found an incorrect trailing UTF-8 octet" place.activity
      advance 3
      return octet.toUInt8 :: (← trailingOctets place count)

def escapedCharacter (place : TagPlace) : Scan TagText := do
  match escapedOctet? (← get).ahead with
  | none => stop "did not find URI escaped octet" place.activity
  | some octet =>
    match octetCount octet with
    | 0 => stop "found an incorrect leading UTF-8 octet" place.activity
    | count + 1 =>
      advance 3
      return octet.toUInt8 :: (← trailingOctets place count)

/-- The octets of a tag from here on; `fuel` bounds the number of characters. -/
def tagCharacters (place : TagPlace) (bracketed : Bool) : Nat → Scan TagText
  | 0 => return []
  | fuel + 1 => do
    match ← peek with
    | none => return []
    | some c =>
      if c = '%' then
        let first ← escapedCharacter place
        return first ++ (← tagCharacters place bracketed fuel)
      else if isTagCharacter bracketed c then
        advance 1
        return c.toUInt8 :: (← tagCharacters place bracketed fuel)
      else return []

/--
The octets of a tag, of which there must be some unless a part of it was read
before.  Those behind an escaped zero do not count.
-/
def tagText (place : TagPlace) (bracketed : Bool) (before : List Char) : Scan TagText := do
  let text ← tagCharacters place bracketed (← get).ahead.length
  if before.isEmpty && text.isEmpty then
    stop "did not find expected tag URI" place.activity
  return TagText.untilZero ((before.drop 1).map Char.toUInt8 ++ text)

/-- What may be a handle: an exclamation mark, a word and another exclamation mark. -/
def tagHandle (place : TagPlace) : Scan (List Char) := do
  let activity :=
    match place with
    | .node => "while scanning a tag"
    | .directive => "while scanning a tag directive"
  if (← peek) ≠ some '!' then
    stop "did not find expected '!'" activity
  advance 1
  let word ← takeWhile isWordCharacter
  if (← peek) = some '!' then
    advance 1
    return '!' :: word ++ ['!']
  else if place = .directive && !word.isEmpty then
    stop "did not find expected '!'" "while parsing a tag directive"
  else return '!' :: word

/-- Whether what was read as a handle is one with a word or a second mark. -/
def isFullHandle (handle : List Char) : Bool :=
  1 < handle.length && handle.getLast? == some '!'

/-- The handle and the suffix of a tag; an empty handle leaves the suffix as it is. -/
def tagParts : Scan (List Char × TagText) := do
  if (← get).at? 1 = some '<' then
    advance 2
    let suffix ← tagText .node true []
    if (← peek) ≠ some '>' then
      stop "did not find the expected '>'" "while scanning a tag"
    advance 1
    return ([], suffix)
  else
    let handle ← tagHandle .node
    if isFullHandle handle then
      return (handle, ← tagText .node false [])
    else
      let suffix ← tagText .node false handle
      return if suffix.isEmpty then ([], TagText.ofString "!") else (['!'], suffix)

/-- A tag, which a blank must follow, or inside brackets a comma. -/
def tag (inFlow : Bool) : Scan Token := do
  let (handle, suffix) ← tagParts
  let next ← peek
  if !isBlankOrEnd next && !(inFlow && next == some ',') then
    stop "did not find expected whitespace or line break" "while scanning a tag"
  return .tag (String.ofList handle) suffix

/-! ## Directives -/

def versionNumber : Scan Nat := do
  let digits ← takeWhile Char.isDigit
  if 9 < digits.length then
    stop "found extremely long version number" "while scanning a %YAML directive"
  match digits? 10 digits with
  | none => stop "did not find expected version number" "while scanning a %YAML directive"
  | some value => return value

def versionDirective : Scan Token := do
  skipWhile isSpace
  let major ← versionNumber
  if (← peek) ≠ some '.' then
    stop "did not find expected digit or '.' character" "while scanning a %YAML directive"
  advance 1
  return .versionDirective major (← versionNumber)

def tagDirective : Scan Token := do
  skipWhile isSpace
  let handle ← tagHandle .directive
  if !(← peek).any isSpace then
    stop "did not find expected whitespace" "while scanning a %TAG directive"
  skipWhile isSpace
  let full ← tagText .directive true []
  if !isBlankOrEnd (← peek) then
    stop "did not find expected whitespace or line break" "while scanning a %TAG directive"
  return .tagDirective (String.ofList handle) full

def directive : Scan Token := do
  let activity := "while scanning a directive"
  advance 1
  let name ← takeWhile isWordCharacter
  if name.isEmpty then
    stop "could not find expected directive name" activity
  if !isBlankOrEnd (← peek) then
    stop "found unexpected non-alphabetical character" activity
  let token ←
    match String.ofList name with
    | "YAML" => versionDirective
    | "TAG" => tagDirective
    | _ => stop "found unknown directive name" activity
  finishLine activity
  return token

end Scan

end VersionedApi.Yaml
