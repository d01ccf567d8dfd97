import VersionedApi.Source.Fault
import VersionedApi.Yaml.Characters

/-!
# Moving through a YAML text

A cursor is a place in a text: what lies ahead, and the line and column that
indentation is measured by.  Scanning moves a cursor forward or stops at a
fault.
-/

namespace VersionedApi.Yaml

open VersionedApi.Source

/-- A place in a text; lines and columns are counted from zero. -/
structure Cursor where
  ahead : List Char
  line : Nat
  column : Nat
  /-- How many octets lie behind. -/
  index : Nat
  deriving Repr

namespace Cursor

def ofText (text : String) : Cursor :=
  ⟨text.toList, 0, 0, 0⟩

def at? (cursor : Cursor) (offset : Nat) : Option Char :=
  cursor.ahead[offset]?

def next? (cursor : Cursor) : Option Char :=
  cursor.ahead.head?

def octets (characters : List Char) : Nat :=
  characters.foldl (fun count c => count + c.utf8Size) 0

/-- Go on by some characters of the same line. -/
def advance (cursor : Cursor) (count : Nat) : Cursor :=
  { cursor with
    ahead := cursor.ahead.drop count
    column := cursor.column + count
    index := cursor.index + octets (cursor.ahead.take count) }

/-- Go on to the next line; a carriage return and a line feed together are one break. -/
def breakLine (cursor : Cursor) : Cursor :=
  match cursor.ahead with
  | '\r' :: '\n' :: rest => ⟨rest, cursor.line + 1, 0, cursor.index + 2⟩
  | c :: rest => ⟨rest, cursor.line + 1, 0, cursor.index + c.utf8Size⟩
  | [] => cursor

/-- The end of the text counts as a line of its own. -/
def leaveLine (cursor : Cursor) : Cursor :=
  if cursor.column = 0 then cursor else { cursor with line := cursor.line + 1, column := 0 }

/-- The break at the cursor as it counts in a text: a line feed, or a Unicode separator. -/
def breakText (cursor : Cursor) : List Char :=
  match cursor.ahead with
  | [] => []
  | c :: _ => if c.toNat = 0x2028 ∨ c.toNat = 0x2029 then [c] else ['\n']

def atDocumentMark (cursor : Cursor) (mark : Char) : Bool :=
  cursor.column == 0 && cursor.ahead.take 3 == [mark, mark, mark] &&
    isBlankOrEnd (cursor.at? 3)

/-- Whether either mark between documents stands at the cursor. -/
def atDocumentBoundary (cursor : Cursor) : Bool :=
  cursor.atDocumentMark '-' || cursor.atDocumentMark '.'

end Cursor

abbrev Scan := StateT Cursor (Except Fault)

namespace Scan

def stop {α : Type} (problem activity : String) : Scan α :=
  throw (.unreadable (problem ++ ", " ++ activity))

def peek : Scan (Option Char) := do
  return (← get).next?

def advance (count : Nat) : Scan Unit :=
  modify (·.advance count)

def takeWhile (property : Char → Bool) : Scan (List Char) := do
  let cursor ← get
  let taken := cursor.ahead.takeWhile property
  set (cursor.advance taken.length)
  return taken

def skipWhile (property : Char → Bool) : Scan Unit := do
  let _ ← takeWhile property

/-- Pass over blanks and a comment, and over the end of the line, which must follow. -/
def finishLine (activity : String) : Scan Unit := do
  skipWhile isSpace
  if (← peek) = some '#' then
    skipWhile fun c => !isBreak c
  if !isLineEnd (← peek) then
    stop "did not find expected comment or line break" activity
  modify Cursor.breakLine

end Scan

end VersionedApi.Yaml
