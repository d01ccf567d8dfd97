import VersionedApi.Json.Flaw
import VersionedApi.Text.Decimal

/-!
# Scalars of a JSON text

Strings, numbers and the three words.  A scalar that is passed over has to meet
fewer conditions than one that is read: its surrogates need not be paired and
its size does not matter.
-/

namespace VersionedApi.Json

open VersionedApi.Text

/-- A JSON value that is neither a list nor an object. -/
inductive Scalar where
  | null
  | flag (value : Bool)
  /-- An integer from 0 to 2^64 - 1. -/
  | natural (value : Nat)
  /-- An integer from -2^63 to -1. -/
  | negative (value : Int)
  | number (value : Float)
  | text (value : String)
  deriving Repr

/-- What reading a scalar gives, what passing over it gives, and what follows it. -/
structure Scanned where
  read : Except Flaw Scalar
  skipped : Option Flaw
  /-- Nothing where even passing over it fails. -/
  rest : Option (List Char)

/-- Nothing can be made of the text from here on. -/
def Scanned.broken (flaw : Flaw) : Scanned :=
  ⟨.error flaw, some flaw, none⟩

/-! ## Strings -/

def escaped? : Char → Option Char
  | '"' => some '"'
  | '\\' => some '\\'
  | '/' => some '/'
  | 'b' => some (Char.ofNat 8)
  | 'f' => some (Char.ofNat 12)
  | 'n' => some '\n'
  | 'r' => some '\r'
  | 't' => some '\t'
  | _ => none

def isLeadingSurrogate (unit : Nat) : Bool :=
  0xD800 ≤ unit && unit ≤ 0xDBFF

def isTrailingSurrogate (unit : Nat) : Bool :=
  0xDC00 ≤ unit && unit ≤ 0xDFFF

def joinSurrogates (leading trailing : Nat) : Char :=
  Char.ofNat (0x10000 + (leading - 0xD800) * 0x400 + (trailing - 0xDC00))

/-- What has been read of a string: its characters, the last first, or the first flaw. -/
structure StringDraft where
  characters : Except Flaw (List Char)
  /-- A leading surrogate whose partner must follow. -/
  leading : Option Nat

namespace StringDraft

/-- Something else than the partner of a surrogate follows. -/
def settle (draft : StringDraft) : StringDraft :=
  match draft.leading with
  | none => draft
  | some _ => ⟨draft.characters.bind fun _ => .error .cutSurrogatePair, none⟩

def push (draft : StringDraft) (c : Char) : StringDraft :=
  let settled := draft.settle
  ⟨settled.characters.map (c :: ·), none⟩

def pushUnit (draft : StringDraft) (unit : Nat) : StringDraft :=
  match draft.leading with
  | some leading =>
    if isTrailingSurrogate unit then
      ⟨draft.characters.map (joinSurrogates leading unit :: ·), none⟩
    else ⟨draft.characters.bind fun _ => .error .loneSurrogate, none⟩
  | none =>
    if isTrailingSurrogate unit then
      ⟨draft.characters.bind fun _ => .error .loneSurrogate, none⟩
    else if isLeadingSurrogate unit then ⟨draft.characters, some unit⟩
    else ⟨draft.characters.map (Char.ofNat unit :: ·), none⟩

/-- The string cannot be continued; an earlier flaw counts first. -/
def fail (draft : StringDraft) (flaw : Flaw) : Scanned :=
  match draft.characters with
  | .error earlier => ⟨.error earlier, some flaw, none⟩
  | .ok _ => .broken flaw

def finish (draft : StringDraft) (rest : List Char) : Scanned :=
  let read := draft.settle.characters.map fun characters =>
    Scalar.text (String.ofList characters.reverse)
  ⟨read, none, some rest⟩

end StringDraft

def scanString (draft : StringDraft) : List Char → Scanned
  | [] => draft.fail .endInString
  | '"' :: rest => draft.finish rest
  | ['\\'] => draft.fail .endInString
  | '\\' :: 'u' :: first :: second :: third :: fourth :: rest =>
    match digits? 16 [first, second, third, fourth] with
    | some unit => scanString (draft.pushUnit unit) rest
    | none => draft.fail .invalidEscape
  | '\\' :: 'u' :: short =>
    if (String.ofList short).utf8ByteSize < 4 then draft.fail .endInString
    else draft.fail .invalidEscape
  | '\\' :: letter :: rest =>
    match escaped? letter with
    | some c => scanString (draft.push c) rest
    | none => draft.settle.fail .invalidEscape
  | c :: rest =>
    if c.toNat < 0x20 then draft.settle.fail .controlCharacter
    else scanString (draft.push c) rest

/-! ## Numbers -/

/-- The largest significand that is kept exactly. -/
def largestSignificand : Nat :=
  Nat.pow 2 64 - 1

/--
A significand is taken digit by digit as long as it is not too large; this is
what has been taken and the digits that are left.
-/
def takeSignificand (significand : Nat) : List Char → Nat × List Char
  | [] => (significand, [])
  | c :: rest =>
    if c.isDigit && significand * 10 + (c.toNat - 48) ≤ largestSignificand then
      takeSignificand (significand * 10 + (c.toNat - 48)) rest
    else (significand, c :: rest)

/-- Powers of ten are applied in steps of at most 308 to stay within range. -/
def scaleDown (value : Float) (count : Nat) : Float :=
  if h : count ≤ 308 then value / Float.ofScientific 1 false count
  else if value == 0 then value
  else scaleDown (value / Float.ofScientific 1 false 308) (count - 308)
termination_by count
decreasing_by omega

/-- A significand times a power of ten, if it is in range. -/
def scaled? (significand : Nat) (exponent : Int) : Option Float :=
  let value := significand.toFloat
  if exponent < 0 then some (scaleDown value exponent.natAbs)
  else if value == 0 then some value
  else if exponent > 308 then none
  else
    let product := value * Float.ofScientific 1 false exponent.natAbs
    if product.isFinite then some product else none

/-- The largest exponent that is told from larger ones. -/
def largestExponent : Int :=
  Int.pow 2 31 - 1

/-- A number with a fraction, an exponent or too many digits. -/
def measure (negative : Bool) (significand : Nat) (shift : Int) (exponent : Int) :
    Except Flaw Scalar :=
  let sign (value : Float) : Scalar := .number (if negative then -value else value)
  if exponent.natAbs > largestExponent then
    if significand ≠ 0 ∧ exponent > 0 then .error .numberOutOfRange else .ok (sign 0)
  else
    match scaled? significand (shift + exponent) with
    | some value => .ok (sign value)
    | none => .error .numberOutOfRange

def integer (negative : Bool) (significand : Nat) : Scalar :=
  if !negative then .natural significand
  else if 0 < significand ∧ significand ≤ Nat.pow 2 63 then .negative (-(significand : Int))
  else .number (-significand.toFloat)

def scanExponent (finish : Int → Except Flaw Scalar) (text : List Char) : Scanned :=
  let (negative, digits) := Decimal.splitSign text
  match digits with
  | [] => ⟨.error .endInValue, some .invalidNumber, none⟩
  | first :: _ =>
    if first.isDigit then
      let value := (digits? 10 (digits.takeWhile Char.isDigit)).getD 0
      ⟨finish (if negative then -(value : Int) else value), none,
        some (digits.dropWhile Char.isDigit)⟩
    else .broken .invalidNumber

def scanScale (plain : Except Flaw Scalar) (finish : Int → Except Flaw Scalar) :
    List Char → Scanned
  | 'e' :: rest => scanExponent finish rest
  | 'E' :: rest => scanExponent finish rest
  | rest => ⟨plain, none, some rest⟩

def scanDigits (negative : Bool) (text : List Char) : Scanned :=
  let (whole, afterWhole) := takeSignificand 0 text
  let excess := afterWhole.takeWhile Char.isDigit
  let tail := afterWhole.dropWhile Char.isDigit
  match tail with
  | '.' :: [] => ⟨.error .endInValue, some .invalidNumber, none⟩
  | '.' :: fraction =>
    if (fraction.head?.map Char.isDigit).getD false then
      let (significand, left) := takeSignificand whole fraction
      let taken := fraction.length - left.length
      let shift : Int := excess.length - taken
      scanScale (measure negative significand shift 0) (measure negative significand shift)
        (left.dropWhile Char.isDigit)
    else .broken .invalidNumber
  | rest =>
    let plain :=
      if excess.isEmpty then .ok (integer negative whole)
      else measure negative whole excess.length 0
    scanScale plain (measure negative whole excess.length) rest

def scanNumber (negative : Bool) (text : List Char) : Scanned :=
  match text with
  | [] => ⟨.error .endInValue, some .invalidNumber, none⟩
  | '0' :: second :: rest =>
    if second.isDigit then .broken .invalidNumber else scanDigits negative ('0' :: second :: rest)
  | first :: rest =>
    if first.isDigit then scanDigits negative (first :: rest) else .broken .invalidNumber

/-! ## Words -/

def scanWord (value : Scalar) : List Char → List Char → Scanned
  | [], rest => ⟨.ok value, none, some rest⟩
  | _ :: _, [] => .broken .endInValue
  | expected :: word, c :: rest =>
    if c = expected then scanWord value word rest else .broken .expectedWord

def scanScalar : List Char → Scanned
  | [] => .broken .endBeforeValue
  | 'n' :: rest => scanWord .null ['u', 'l', 'l'] rest
  | 't' :: rest => scanWord (.flag true) ['r', 'u', 'e'] rest
  | 'f' :: rest => scanWord (.flag false) ['a', 'l', 's', 'e'] rest
  | '"' :: rest => scanString ⟨.ok [], none⟩ rest
  | '-' :: rest => scanNumber true rest
  | c :: rest => if c.isDigit then scanNumber false (c :: rest) else .broken .expectedValue

end VersionedApi.Json
