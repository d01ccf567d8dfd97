import VersionedApi.Document.Node

/-!
# Documents as JSON

Two layouts of a document: all on one line, and indented by two blanks.  Both
write the same strings, in which only the quote, the backslash and the control
characters are escaped.
-/

namespace VersionedApi.Document.Json

/-! ## Strings -/

def hexDigit (value : Nat) : Char :=
  if value < 10 then Char.ofNat (48 + value) else Char.ofNat (87 + value)

def escape (c : Char) : List Char :=
  match c with
  | '"' => ['\\', '"']
  | '\\' => ['\\', '\\']
  | '\n' => ['\\', 'n']
  | '\r' => ['\\', 'r']
  | '\t' => ['\\', 't']
  | c =>
    if c.toNat = 8 then ['\\', 'b']
    else if c.toNat = 12 then ['\\', 'f']
    else if c.toNat < 32 then
      ['\\', 'u', '0', '0', hexDigit (c.toNat / 16), hexDigit (c.toNat % 16)]
    else [c]

def quote (text : String) : List Char :=
  '"' :: text.toList.flatMap escape ++ ['"']

def flag (value : Bool) : List Char :=
  if value then ['t', 'r', 'u', 'e'] else ['f', 'a', 'l', 's', 'e']

/-! ## On one line -/

mutual

def compact : Node → List Char
  | .text value => quote value
  | .flag value => flag value
  | .object fields => '{' :: compactFields fields ++ ['}']
  | .array items => '[' :: compactItems items ++ [']']

def compactFields : List (String × Node) → List Char
  | [] => []
  | [(key, value)] => quote key ++ ':' :: compact value
  | (key, value) :: rest => quote key ++ ':' :: compact value ++ ',' :: compactFields rest

def compactItems : List Node → List Char
  | [] => []
  | [item] => compact item
  | item :: rest => compact item ++ ',' :: compactItems rest

end

/-! ## Indented -/

def newline (depth : Nat) : List Char :=
  '\n' :: List.replicate (2 * depth) ' '

mutual

def indented (depth : Nat) : Node → List Char
  | .text value => quote value
  | .flag value => flag value
  | .object [] => ['{', '}']
  | .object (field :: rest) =>
    '{' :: indentedFields (depth + 1) (field :: rest) ++ newline depth ++ ['}']
  | .array [] => ['[', ']']
  | .array (item :: rest) =>
    '[' :: indentedItems (depth + 1) (item :: rest) ++ newline depth ++ [']']

def indentedFields (depth : Nat) : List (String × Node) → List Char
  | [] => []
  | [(key, value)] => newline depth ++ quote key ++ ':' :: ' ' :: indented depth value
  | (key, value) :: rest =>
    newline depth ++ quote key ++ ':' :: ' ' :: indented depth value ++
      ',' :: indentedFields depth rest

def indentedItems (depth : Nat) : List Node → List Char
  | [] => []
  | [item] => newline depth ++ indented depth item
  | item :: rest => newline depth ++ indented depth item ++ ',' :: indentedItems depth rest

end

/-! ## As texts -/

def line (node : Node) : String :=
  String.ofList (compact node)

/-- A document over several lines, without a line break at its end. -/
def lines (node : Node) : String :=
  String.ofList (indented 0 node)

end VersionedApi.Document.Json
