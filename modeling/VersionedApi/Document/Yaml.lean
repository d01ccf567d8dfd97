import VersionedApi.Document.Node
import VersionedApi.Yaml.Characters
import VersionedApi.Yaml.Plain

/-!
# Documents as YAML

A document in block style, indented by two blanks.  A scalar is plain where
that reads back as its text, otherwise between single quotes, and between
double quotes if it holds something that cannot be shown; a text of several
lines is a literal block.
-/

namespace VersionedApi.Document.Yaml

open VersionedApi.Yaml

/-! ## The pen -/

/--
The text so far, last character first, and where the next character goes.
`blank` says that no separating blank is needed there, `fresh` that nothing
but blanks and indicators stands on the line.
-/
structure Pen where
  written : List Char
  column : Nat
  blank : Bool
  fresh : Bool

namespace Pen

def start : Pen :=
  ⟨[], 0, true, true⟩

def put (pen : Pen) (c : Char) : Pen :=
  { pen with written := c :: pen.written, column := pen.column + 1 }

def puts (pen : Pen) (text : List Char) : Pen :=
  text.foldl put pen

def endLine (pen : Pen) (lineBreak : Char) : Pen :=
  { pen with written := lineBreak :: pen.written, column := 0 }

/-- Go to an indentation, on the next line unless this one is still unused. -/
def indent (pen : Pen) (depth : Nat) : Pen :=
  let needed := !pen.fresh || pen.column > depth || (pen.column == depth && !pen.blank)
  let line := if needed then pen.endLine '\n' else pen
  let padded := line.puts (List.replicate (depth - line.column) ' ')
  { padded with blank := true, fresh := true }

/--
Write an indicator, after a blank if `separate` asks for one and there is none.
`blank` and `fresh` describe what the indicator leaves behind.
-/
def indicate (pen : Pen) (indicator : List Char) (separate blank fresh : Bool) : Pen :=
  let spaced := if separate && !pen.blank then pen.put ' ' else pen
  let done := spaced.puts indicator
  { done with blank := blank, fresh := pen.fresh && fresh }

def text (pen : Pen) : String :=
  String.ofList pen.written.reverse

end Pen

/-! ## Choosing a style -/

inductive Style where
  | plain
  | single
  | double
  | literal
  deriving Repr, DecidableEq

/-- Every character with the one before it and the one after it. -/
def neighbours (text : List Char) : List (Option Char × Char × Option Char) :=
  (none :: text.map some).zip (text.zip ((text.drop 1).map some ++ [none]))

/-- The character would end a plain scalar or begin something else in its place. -/
def breaksPlain : Option Char × Char × Option Char → Bool
  | (none, c, next) =>
    startsOtherThanPlain c || ((c == '?' || c == ':' || c == '-') && isBlankOrEnd next)
  | (some before, c, next) =>
    (c == ':' && isBlankOrEnd next) || (c == '#' && isBlankOrEnd (some before))

def startsLikeMarker : List Char → Bool
  | '-' :: '-' :: '-' :: _ => true
  | '.' :: '.' :: '.' :: _ => true
  | _ => false

/-- Some character of the first class is directly followed by one of the second. -/
def hasPair (first second : Char → Bool) (text : List Char) : Bool :=
  (text.zip (text.drop 1)).any fun (c, next) => first c && second next

/-- What a text requires of its style. -/
structure Traits where
  multiline : Bool
  plain : Bool
  single : Bool
  literal : Bool

def Traits.ofText (text : List Char) : Traits :=
  let blank : Char → Bool := (· == ' ')
  let multiline := text.any isBreak
  let edge := (text.head?.any fun c => blank c || isBreak c) ||
    (text.getLast?.any fun c => blank c || isBreak c)
  let hidden := text.any (!isPrintable ·) || hasPair blank isBreak text
  let ragged := hasPair isBreak blank text
  { multiline
    plain := !(edge || ragged || hidden || multiline || startsLikeMarker text ||
      (neighbours text).any breaksPlain)
    single := !(ragged || hidden)
    literal := !(text.isEmpty || hidden || text.getLast? == some ' ') }

/-- The style of a text; as a key on the line of its value it stays on one line. -/
def Style.choose (text : String) (simpleKey : Bool) : Style :=
  let traits := Traits.ofText text.toList
  let quoted := if traits.single then Style.single else .double
  if simpleKey && traits.multiline then .double
  else if text.contains '\n' then
    if traits.literal && !simpleKey then .literal else .double
  else if Plain.isText text && traits.plain then .plain
  else quoted

/-! ## Writing scalars -/

def hexDigits (width value : Nat) : List Char :=
  let digits := (Nat.toDigits 16 value).map Char.toUpper
  List.replicate (width - digits.length) '0' ++ digits

def escape (c : Char) : List Char :=
  if isPrintable c && !isBreak c && c != '"' && c != '\\' then [c]
  else
    let escaped :=
      match c.toNat with
      | 0x00 => ['0']
      | 0x07 => ['a']
      | 0x08 => ['b']
      | 0x09 => ['t']
      | 0x0A => ['n']
      | 0x0B => ['v']
      | 0x0C => ['f']
      | 0x0D => ['r']
      | 0x1B => ['e']
      | 0x22 => ['"']
      | 0x5C => ['\\']
      | 0x85 => ['N']
      | 0xA0 => ['_']
      | 0x2028 => ['L']
      | 0x2029 => ['P']
      | point =>
        if point ≤ 0xFF then 'x' :: hexDigits 2 point
        else if point ≤ 0xFFFF then 'u' :: hexDigits 4 point
        else 'U' :: hexDigits 8 point
    '\\' :: escaped

/-- Characters between single quotes; `broken` says that a line was just ended. -/
def singleQuoted (depth : Nat) (pen : Pen) (broken : Bool) : List Char → Pen
  | [] => if broken then pen.indent depth else pen
  | c :: rest =>
    if c = ' ' then singleQuoted depth (pen.put c) broken rest
    else if isBreak c then
      let ended := if !broken && c == '\n' then pen.endLine '\n' else pen
      singleQuoted depth { ended.endLine c with fresh := true } true rest
    else
      let line := if broken then pen.indent depth else pen
      let escaped := if c = '\'' then line.put c else line
      singleQuoted depth { escaped.put c with fresh := false } false rest

/-- The lines of a literal block; `broken` says that a line was just ended. -/
def literalLines (depth : Nat) (pen : Pen) (broken : Bool) : List Char → Pen
  | [] => pen
  | c :: rest =>
    if isBreak c then literalLines depth { pen.endLine c with fresh := true } true rest
    else
      let line := if broken then pen.indent depth else pen
      literalLines depth { line.put c with fresh := false } false rest

/-- How a literal block ends: without a break, with one, or with more than one. -/
def chomping (text : List Char) : List Char :=
  match text.reverse with
  | [] => ['-']
  | last :: before =>
    if !isBreak last then ['-']
    else
      match before with
      | [] => ['+']
      | c :: _ => if isBreak c then ['+'] else []

/-- What stands between the bar of a literal block and its first line. -/
def literalHeader (text : List Char) : List Char :=
  let leading := text.head?.any fun c => c == ' ' || isBreak c
  (if leading then ['2'] else []) ++ chomping text

/-- Write a text whose own lines go to the indentation `depth`. -/
def writeText (depth : Nat) (simpleKey : Bool) (text : String) (pen : Pen) : Pen :=
  let characters := text.toList
  match Style.choose text simpleKey with
  | .plain =>
    let spaced := if pen.blank || characters.isEmpty then pen else pen.put ' '
    { spaced.puts characters with blank := false, fresh := false }
  | .single =>
    let opened := pen.indicate ['\''] true false false
    (singleQuoted depth opened false characters).indicate ['\''] false false false
  | .double =>
    let opened := pen.indicate ['"'] true false false
    (opened.puts (characters.flatMap escape)).indicate ['"'] false false false
  | .literal =>
    let opened := pen.indicate ['|'] true false false
    let header := opened.indicate (literalHeader characters) false false false
    literalLines depth { header.endLine '\n' with blank := true, fresh := true } true characters

def writeFlag (value : Bool) (pen : Pen) : Pen :=
  let spaced := if pen.blank then pen else pen.put ' '
  { spaced.puts (if value then "true" else "false").toList with blank := false, fresh := false }

/-! ## Writing collections -/

/-- A key may share the line of its value if it is short and has one line. -/
def isSimpleKey (key : String) : Bool :=
  !key.toList.any isBreak && key.utf8ByteSize ≤ 128

def writeKey (depth : Nat) (key : String) (pen : Pen) : Pen :=
  let line := pen.indent depth
  if isSimpleKey key then
    (writeText (depth + 2) true key line).indicate [':'] false false false
  else
    let marked := line.indicate ['?'] true false true
    ((writeText (depth + 2) false key marked).indent depth).indicate [':'] true false true

mutual

/--
Write a node inside a collection at the indentation `depth`.  An array that is
the value of a key on the same line is not indented further than the key.
-/
def writeNode (depth : Nat) (inObject : Bool) : Node → Pen → Pen
  | .text value, pen => writeText (depth + 2) false value pen
  | .flag value, pen => writeFlag value pen
  | .object [], pen => (pen.indicate ['{'] true true false).indicate ['}'] false false false
  | .object (field :: rest), pen => writeFields (depth + 2) (field :: rest) pen
  | .array [], pen => (pen.indicate ['['] true true false).indicate [']'] false false false
  | .array (item :: rest), pen =>
    let inner := if inObject && !pen.fresh then depth else depth + 2
    writeItems inner (item :: rest) pen

def writeFields (depth : Nat) : List (String × Node) → Pen → Pen
  | [], pen => pen
  | (key, value) :: rest, pen =>
    writeFields depth rest (writeNode depth true value (writeKey depth key pen))

def writeItems (depth : Nat) : List Node → Pen → Pen
  | [], pen => pen
  | item :: rest, pen =>
    writeItems depth rest
      (writeNode depth false item ((pen.indent depth).indicate ['-'] true false true))

end

def lines (fields : Fields) : String :=
  let pen :=
    match fields with
    | [] => (Pen.start.indicate ['{'] true true false).indicate ['}'] false false false
    | field :: rest => writeFields 0 (field :: rest) Pen.start
  (pen.indent 0).text

end VersionedApi.Document.Yaml
