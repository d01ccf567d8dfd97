/-!
# Tokens of a YAML text

The marks and scalars that a text consists of once blanks, comments and
indentation have been accounted for.
-/

namespace VersionedApi.Yaml

inductive ScalarStyle where
  | plain
  | singleQuoted
  | doubleQuoted
  | literal
  | folded
  deriving Repr, DecidableEq

/--
The octets of a tag or of a part of one.  Escapes may spell octets that are not
the encoding of any text.
-/
abbrev TagText := List UInt8

namespace TagText

def ofString (text : String) : TagText :=
  text.toUTF8.toList

def text? (octets : TagText) : Option String :=
  String.fromUTF8? ⟨octets.toArray⟩

/-- What counts of some octets: those before the first zero. -/
def untilZero (octets : TagText) : TagText :=
  octets.takeWhile (· != 0)

/-- A tag of one's own, which begins with an exclamation mark. -/
def isOwn (octets : TagText) : Bool :=
  octets.head? == some '!'.toUInt8

end TagText

/-- A token; blocks that only indentation marks have tokens for their start and end. -/
inductive Token where
  | streamEnd
  | versionDirective (major minor : Nat)
  | tagDirective (handle : String) (full : TagText)
  | documentStart
  | documentEnd
  | blockSequenceStart
  | blockMappingStart
  | blockEnd
  | flowSequenceStart
  | flowSequenceEnd
  | flowMappingStart
  | flowMappingEnd
  | blockEntry
  | flowEntry
  | key
  | value
  | aliasOf (name : String)
  | anchor (name : String)
  | tag (handle : String) (suffix : TagText)
  | scalar (text : String) (style : ScalarStyle)
  deriving Repr, DecidableEq

namespace Token

/-- Tokens that a document may begin with besides its content. -/
def isDirective : Token → Bool
  | versionDirective _ _ | tagDirective _ _ => true
  | _ => false

/-- Tokens that leave a document without content. -/
def endsDocument : Token → Bool
  | versionDirective _ _ | tagDirective _ _ | documentStart | documentEnd | streamEnd => true
  | _ => false

end Token

end VersionedApi.Yaml
