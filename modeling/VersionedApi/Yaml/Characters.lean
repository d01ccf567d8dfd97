/-!
# Characters of YAML

The classes of characters that both the reading and the writing of YAML go by.
-/

namespace VersionedApi.Yaml

/-- The end of a line: line feed, carriage return and the three Unicode line breaks. -/
def isBreak (c : Char) : Bool :=
  c == '\n' || c == '\r' || c.toNat == 0x85 || c.toNat == 0x2028 || c.toNat == 0x2029

def isSpace (c : Char) : Bool :=
  c == ' ' || c == '\t'

def isByteOrderMark (c : Char) : Bool :=
  c.toNat == 0xFEFF

/-- What follows is a blank, the end of the line or the end of the text. -/
def isBlankOrEnd : Option Char → Bool
  | none => true
  | some c => isSpace c || isBreak c

def isLineEnd : Option Char → Bool
  | none => true
  | some c => isBreak c

/-- The characters of anchors, directive names and tag handles. -/
def isWordCharacter (c : Char) : Bool :=
  c.isAlphanum || c == '-' || c == '_'

/-- Characters that a scalar may show as they are. -/
def isPrintable (c : Char) : Bool :=
  c == '\n' || (0x20 ≤ c.toNat && c.toNat ≤ 0x7E) || (0xA0 ≤ c.toNat && c.toNat ≤ 0xD7FF) ||
    (0xE000 ≤ c.toNat && c.toNat ≤ 0xFFFD && !isByteOrderMark c) || 0x10000 ≤ c.toNat

/-- Characters that may occur in a YAML text at all. -/
def isAdmissible (c : Char) : Bool :=
  c == '\t' || c == '\r' || c.toNat == 0x85 || isByteOrderMark c || isPrintable c

def startsOtherThanPlain (c : Char) : Bool :=
  c ∈ ['#', ',', '[', ']', '{', '}', '&', '*', '!', '|', '>', '\'', '"', '%', '@', '`']

end VersionedApi.Yaml
