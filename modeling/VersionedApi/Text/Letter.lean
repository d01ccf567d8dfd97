import VersionedApi.Text.Alphanumeric
import VersionedApi.Text.Lowercase
import VersionedApi.Text.Uppercase

/-!
# Letters

Classes of characters and their case mappings.  On ASCII each function agrees
with the one of the core library; beyond ASCII it reads the Unicode tables.
-/

namespace VersionedApi.Text

def isAscii (c : Char) : Bool :=
  c.toNat < 128

/-- Letters and digits of every script. -/
def isAlphanumeric (c : Char) : Bool :=
  if isAscii c then c.isAlphanum else Run.anyContains alphanumericRuns c.toNat

def isLowercase (c : Char) : Bool :=
  if isAscii c then c.isLower else Run.anyContains lowercaseRuns c.toNat

def isUppercase (c : Char) : Bool :=
  if isAscii c then c.isUpper else Run.anyContains uppercaseRuns c.toNat

/--
Blanks: the Unicode property White_Space.  It has more members than
`Char.isWhitespace`, which stops at ASCII.
-/
def isBlank (c : Char) : Bool :=
  (9 ≤ c.toNat && c.toNat ≤ 13) || c.toNat == 0x20 || c.toNat == 0x85 || c.toNat == 0xA0 ||
    c.toNat == 0x1680 || (0x2000 ≤ c.toNat && c.toNat ≤ 0x200A) || c.toNat == 0x2028 ||
    c.toNat == 0x2029 || c.toNat == 0x202F || c.toNat == 0x205F || c.toNat == 0x3000

/--
The small form of a character.  Only the dotted capital I takes two
characters: a small i and the dot above it.
-/
def lowercase (c : Char) : List Char :=
  if isAscii c then [c.toLower]
  else if c == 'İ' then ['i', Char.ofNat 0x307]
  else [((Shift.find? lowercaseShifts c.toNat).map Char.ofNat).getD c]

def uppercase (c : Char) : List Char :=
  if isAscii c then [c.toUpper]
  else
    match uppercaseExpansions.lookup c.toNat with
    | some points => points.map Char.ofNat
    | none => [((Shift.find? uppercaseShifts c.toNat).map Char.ofNat).getD c]

/-! ## On ASCII -/

theorem isAlphanumeric_of_ascii {c : Char} (ascii : isAscii c = true) :
    isAlphanumeric c = c.isAlphanum := by
  simp [isAlphanumeric, ascii]

theorem isLowercase_of_ascii {c : Char} (ascii : isAscii c = true) :
    isLowercase c = c.isLower := by
  simp [isLowercase, ascii]

theorem isUppercase_of_ascii {c : Char} (ascii : isAscii c = true) :
    isUppercase c = c.isUpper := by
  simp [isUppercase, ascii]

theorem lowercase_of_ascii {c : Char} (ascii : isAscii c = true) :
    lowercase c = [c.toLower] := by
  simp [lowercase, ascii]

/-! ## Trimming -/

def trim (text : List Char) : List Char :=
  ((text.dropWhile isBlank).reverse.dropWhile isBlank).reverse

end VersionedApi.Text
