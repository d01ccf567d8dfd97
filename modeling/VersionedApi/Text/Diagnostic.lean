import VersionedApi.Text.Invisible

/-!
# Quoted texts in messages

A message shows a text between double quotes, with everything spelled out that
could not be seen there.
-/

namespace VersionedApi.Text

/-- Characters that a message spells out by their code point. -/
def isInvisible (c : Char) : Bool :=
  if c.toNat < 128 then c.toNat < 32 || c.toNat = 127
  else Run.anyContains invisibleRuns c.toNat

def diagnosticEscape (c : Char) : List Char :=
  match c with
  | '"' => ['\\', '"']
  | '\\' => ['\\', '\\']
  | '\n' => ['\\', 'n']
  | '\r' => ['\\', 'r']
  | '\t' => ['\\', 't']
  | c =>
    if c.toNat = 0 then ['\\', '0']
    else if isInvisible c then
      ['\\', 'u', '{'] ++ Nat.toDigits 16 c.toNat ++ ['}']
    else [c]

def diagnosticQuote (text : String) : String :=
  String.ofList ('"' :: text.toList.flatMap diagnosticEscape ++ ['"'])

end VersionedApi.Text
