import VersionedApi.Text.Decimal
import VersionedApi.Yaml.Cursor
import VersionedApi.Yaml.Token

/-!
# Scalars of a YAML text

Plain scalars, scalars between quotes, and block scalars.  In all of them a
single line break inside counts as a blank and further breaks count as such;
only literal block scalars keep every break.
-/

namespace VersionedApi.Yaml

open VersionedApi.Text

/-! ## Gaps -/

/-- Blanks and line breaks between the parts of a scalar. -/
structure Gap where
  /-- The blanks before the first break. -/
  blanks : List Char
  broken : Bool
  /-- The first break, unless it was escaped. -/
  first : List Char
  /-- The breaks after the first. -/
  others : List Char

namespace Gap

/-- A gap of which at most an escaped break has been seen. -/
def start (broken : Bool) : Gap :=
  ⟨[], broken, [], []⟩

/-- Add a blank; behind a break blanks are indentation. -/
def blank (gap : Gap) (c : Char) : Gap :=
  if gap.broken then gap else { gap with blanks := gap.blanks ++ [c] }

def lineBreak (gap : Gap) (text : List Char) : Gap :=
  if gap.broken then { gap with others := gap.others ++ text }
  else { gap with blanks := [], broken := true, first := text }

def text (gap : Gap) : List Char :=
  if !gap.broken then gap.blanks
  else if gap.first = ['\n'] then if gap.others.isEmpty then [' '] else gap.others
  else gap.first ++ gap.others

end Gap

namespace Scan

/--
The gap at the cursor.  Behind a break no tab may stand before the column
`indent`; `fuel` bounds the length of the gap.
-/
def gap (indent : Nat) : Nat → Gap → Scan Gap
  | 0, present => return present
  | fuel + 1, present => do
    match ← peek with
    | none => return present
    | some c =>
      if isSpace c then
        if present.broken && (← get).column < indent && c == '\t' then
          stop "found a tab character that violates indentation" "while scanning a plain scalar"
        advance 1
        gap indent fuel (present.blank c)
      else if isBreak c then
        let text := (← get).breakText
        modify Cursor.breakLine
        gap indent fuel (present.lineBreak text)
      else return present

/-! ## Plain scalars -/

/--
The stretch up to a blank or an indicator that ends a plain scalar, unless it
has a colon that must not be there.
-/
def plainStretch (inFlow : Bool) : List Char → Option (List Char)
  | [] => some []
  | c :: rest =>
    if isSpace c || isBreak c then some []
    else if inFlow && c == ':' &&
        rest.head?.any (fun next => next ∈ [',', '?', '[', ']', '{', '}']) then none
    else if (c == ':' && isBlankOrEnd rest.head?) ||
        (inFlow && c ∈ [',', '[', ']', '{', '}']) then some []
    else (plainStretch inFlow rest).map (c :: ·)

/--
The rest of a plain scalar, and whether it ends behind a line break.  `indent`
is the column that its further lines have to reach.
-/
def plainRest (inFlow : Bool) (indent : Nat) : Nat → Gap → Scan (List Char × Bool)
  | 0, before => return ([], before.broken)
  | fuel + 1, before => do
    if (← get).atDocumentBoundary || (← peek) == some '#' then
      return ([], before.broken)
    match plainStretch inFlow (← get).ahead with
    | none => stop "found unexpected ':'" "while scanning a plain scalar"
    | some stretch =>
      advance stretch.length
      let head := if stretch.isEmpty then [] else before.text ++ stretch
      let carried := if stretch.isEmpty then before else Gap.start false
      if !(← peek).any fun c => isSpace c || isBreak c then
        return (head, carried.broken)
      let next ← gap indent (← get).ahead.length (Gap.start false)
      if !inFlow && (← get).column < indent then
        return (head, next.broken)
      let (tail, broken) ← plainRest inFlow indent fuel next
      return (head ++ tail, broken)

def plainScalar (inFlow : Bool) (indent : Nat) : Scan (Token × Bool) := do
  let (text, broken) ← plainRest inFlow indent ((← get).ahead.length + 1) (Gap.start false)
  return (.scalar (String.ofList text) .plain, broken)

/-! ## Quoted scalars -/

def escaped? : Char → Option Char
  | '0' => some (Char.ofNat 0)
  | 'a' => some (Char.ofNat 7)
  | 'b' => some (Char.ofNat 8)
  | 't' | '\t' => some '\t'
  | 'n' => some '\n'
  | 'v' => some (Char.ofNat 11)
  | 'f' => some (Char.ofNat 12)
  | 'r' => some '\r'
  | 'e' => some (Char.ofNat 27)
  | ' ' => some ' '
  | '"' => some '"'
  | '/' => some '/'
  | '\\' => some '\\'
  | 'N' => some (Char.ofNat 0x85)
  | '_' => some (Char.ofNat 0xA0)
  | 'L' => some (Char.ofNat 0x2028)
  | 'P' => some (Char.ofNat 0x2029)
  | _ => none

/-- How many hexadecimal digits follow a letter that announces them. -/
def codeLength? : Char → Option Nat
  | 'x' => some 2
  | 'u' => some 4
  | 'U' => some 8
  | _ => none

def codePoint? (value : Nat) : Option Char :=
  if value.isValidChar then some (Char.ofNat value) else none

def escape : Scan Char := do
  let activity := "while parsing a quoted scalar"
  match (← get).at? 1 with
  | none => stop "found unknown escape character" activity
  | some letter =>
    match escaped? letter, codeLength? letter with
    | some c, _ =>
      advance 2
      return c
    | none, none => stop "found unknown escape character" activity
    | none, some length =>
      advance 2
      let digits := (← get).ahead.take length
      if digits.length < length then
        stop "did not find expected hexadecimal number" activity
      match digits? 16 digits with
      | none => stop "did not find expected hexadecimal number" activity
      | some value =>
        match codePoint? value with
        | none => stop "found invalid Unicode character escape code" activity
        | some c =>
          advance length
          return c

/-- The characters up to a blank, the closing quote or an escaped line break, which is passed. -/
def quotedStretch (single : Bool) : Nat → Scan (List Char × Bool)
  | 0 => return ([], false)
  | fuel + 1 => do
    let cursor ← get
    match cursor.next? with
    | none => return ([], false)
    | some c =>
      if isSpace c || isBreak c then return ([], false)
      else if single && c == '\'' then
        if cursor.at? 1 = some '\'' then
          advance 2
          let (rest, escaped) ← quotedStretch single fuel
          return ('\'' :: rest, escaped)
        else return ([], false)
      else if !single && c == '"' then return ([], false)
      else if !single && c == '\\' then
        if (cursor.at? 1).any isBreak then
          advance 1
          modify Cursor.breakLine
          return ([], true)
        else
          let first ← escape
          let (rest, escaped) ← quotedStretch single fuel
          return (first :: rest, escaped)
      else
        advance 1
        let (rest, escaped) ← quotedStretch single fuel
        return (c :: rest, escaped)

def quotedRest (single : Bool) : Nat → Scan (List Char)
  | 0 => stop "found unexpected end of stream" "while scanning a quoted scalar"
  | fuel + 1 => do
    let cursor ← get
    if cursor.atDocumentBoundary then
      stop "found unexpected document indicator" "while scanning a quoted scalar"
    if cursor.next?.isNone then
      stop "found unexpected end of stream" "while scanning a quoted scalar"
    let (stretch, escaped) ← quotedStretch single cursor.ahead.length
    if (← peek) == some (if single then '\'' else '"') then
      advance 1
      return stretch
    else
      let between ← gap 0 (← get).ahead.length (Gap.start escaped)
      return stretch ++ between.text ++ (← quotedRest single fuel)

def quotedScalar (single : Bool) : Scan Token := do
  advance 1
  let text ← quotedRest single ((← get).ahead.length + 1)
  return .scalar (String.ofList text) (if single then .singleQuoted else .doubleQuoted)

/-! ## Block scalars -/

/-- Which line breaks at the end of a block scalar are kept. -/
inductive Chomping where
  | strip
  | clip
  | keep
  deriving DecidableEq

def chomping? : Option Char → Option Chomping
  | some '+' => some .keep
  | some '-' => some .strip
  | _ => none

def increment? (next : Option Char) : Scan (Option Nat) := do
  match next with
  | none => return none
  | some c =>
    if c = '0' then
      stop "found an indentation indicator equal to 0" "while scanning a block scalar"
    else if c.isDigit then return some (c.toNat - '0'.toNat)
    else return none

/-- The indicators of a block scalar, in either order. -/
def blockIndicators : Scan (Chomping × Option Nat) := do
  match chomping? (← peek) with
  | some chomping =>
    advance 1
    let increment ← increment? (← peek)
    if increment.isSome then advance 1
    return (chomping, increment)
  | none =>
    let increment ← increment? (← peek)
    if increment.isNone then return (.clip, none)
    advance 1
    match chomping? (← peek) with
    | none => return (.clip, increment)
    | some chomping =>
      advance 1
      return (chomping, increment)

/--
The empty lines before the next line of a block scalar, and the widest
indentation among them.  Without an indentation every blank belongs to it.
-/
def emptyLines (indent : Option Nat) : Nat → Nat → Scan (List Char × Nat)
  | 0, widest => return ([], widest)
  | fuel + 1, widest => do
    let within (column : Nat) : Bool := indent.all (column < ·)
    let column := (← get).column
    let blanks := ((← get).ahead.takeWhile (· == ' ')).length
    advance (match indent with
      | none => blanks
      | some indent => min blanks (indent - column))
    let column := (← get).column
    let widest := max widest column
    if within column && (← peek) == some '\t' then
      stop "found a tab character where an indentation space is expected"
        "while scanning a block scalar"
    if (← peek).any isBreak then
      let text := (← get).breakText
      modify Cursor.breakLine
      let (rest, widest) ← emptyLines indent fuel widest
      return (text ++ rest, widest)
    else return ([], widest)

structure BlockDraft where
  text : List Char
  /-- The break at the end of the last line. -/
  lineEnd : List Char
  /-- The empty lines after the last line. -/
  emptyLines : List Char
  /-- Whether the last line began with a blank. -/
  blankBefore : Bool

/-- The text of a draft with the breaks before a next line. -/
def BlockDraft.withBreaks (draft : BlockDraft) (literal blankNext : Bool) : List Char :=
  if !literal && draft.lineEnd == ['\n'] && !draft.blankBefore && !blankNext then
    draft.text ++ (if draft.emptyLines.isEmpty then [' '] else []) ++ draft.emptyLines
  else draft.text ++ draft.lineEnd ++ draft.emptyLines

def blockLines (literal : Bool) (indent : Nat) : Nat → BlockDraft → Scan BlockDraft
  | 0, draft => return draft
  | fuel + 1, draft => do
    let cursor ← get
    match cursor.next? with
    | none => return draft
    | some first =>
      if cursor.column ≠ indent then return draft
      let line ← takeWhile fun c => !isBreak c
      let lineEnd := (← get).breakText
      modify Cursor.breakLine
      let (others, _) ← emptyLines (some indent) ((← get).ahead.length + 1) 0
      blockLines literal indent fuel
        { text := draft.withBreaks literal (isSpace first) ++ line
          lineEnd := lineEnd
          emptyLines := others
          blankBefore := isSpace first }

/-- The text of a block scalar with the breaks at its end that are kept. -/
def BlockDraft.finish (draft : BlockDraft) : Chomping → List Char
  | .strip => draft.text
  | .clip => draft.text ++ draft.lineEnd
  | .keep => draft.text ++ draft.lineEnd ++ draft.emptyLines

/-- A block scalar inside a block with an indentation; outside of all blocks it is -1. -/
def blockScalar (literal : Bool) (outer : Int) : Scan Token := do
  advance 1
  let (chomping, increment) ← blockIndicators
  finishLine "while scanning a block scalar"
  let given := increment.map fun count => (max outer 0).toNat + count
  let (before, widest) ← emptyLines given ((← get).ahead.length + 1) 0
  let indent := given.getD (max widest (max (outer + 1) 1).toNat)
  let draft ← blockLines literal indent ((← get).ahead.length + 1) ⟨[], [], before, false⟩
  return .scalar (String.ofList (draft.finish chomping)) (if literal then .literal else .folded)

end Scan

end VersionedApi.Yaml
