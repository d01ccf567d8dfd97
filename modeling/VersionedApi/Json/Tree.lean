import VersionedApi.Json.Scalar

/-!
# The tree of a JSON text

A text is taken apart as far as possible.  Where it is flawed the tree holds
the flaw in the place where a reader would meet it, so that a reader who stops
earlier for another reason never sees it.
-/

namespace VersionedApi.Json

inductive Tree where
  /-- A scalar or a flaw in its place, and the flaw for one who passes over it. -/
  | leaf (read : Except Flaw Scalar) (skipped : Option Flaw)
  /-- The items, and the flaw in the place of the closing bracket. -/
  | list (items : List Tree) (ending : Option Flaw)
  /-- The keys with their values, and the flaw in the place of the closing brace. -/
  | object (entries : List (Tree × Tree)) (ending : Option Flaw)
  deriving Inhabited

namespace Tree

def flawed (flaw : Flaw) : Tree :=
  leaf (.error flaw) (some flaw)

end Tree

def isBlank (c : Char) : Bool :=
  c == ' ' || c == '\n' || c == '\t' || c == '\r'

/-- A part of a text, and what follows it if it can be followed. -/
structure Parsed (α : Type) where
  value : α
  rest : Option (List Char)

mutual

/-- One value.  Every level of nesting takes a character, so `fuel` can be the text's length. -/
def parseValue (fuel : Nat) (text : List Char) : Parsed Tree :=
  match fuel with
  | 0 => ⟨.flawed .endInValue, none⟩
  | fuel + 1 =>
    match text.dropWhile isBlank with
    | '[' :: rest =>
      let items := parseItems fuel true rest
      ⟨.list items.value.1 items.value.2, items.rest⟩
    | '{' :: rest =>
      let entries := parseEntries fuel true rest
      ⟨.object entries.value.1 entries.value.2, entries.rest⟩
    | other =>
      let scanned := scanScalar other
      ⟨.leaf scanned.read scanned.skipped, scanned.rest⟩

def parseItems (fuel : Nat) (first : Bool) (text : List Char) :
    Parsed (List Tree × Option Flaw) :=
  match fuel with
  | 0 => ⟨([], some .endInList), none⟩
  | fuel + 1 =>
    match text.dropWhile isBlank with
    | [] => ⟨([], some .endInList), none⟩
    | ']' :: rest => ⟨([], none), some rest⟩
    | c :: rest =>
      if first then parseItem fuel (c :: rest)
      else if c = ',' then
        match rest.dropWhile isBlank with
        | [] => ⟨([], some .endInValue), none⟩
        | ']' :: _ => ⟨([], some .trailingComma), none⟩
        | following => parseItem fuel following
      else ⟨([], some .expectedListCommaOrEnd), none⟩

def parseItem (fuel : Nat) (text : List Char) : Parsed (List Tree × Option Flaw) :=
  match fuel with
  | 0 => ⟨([], some .endInList), none⟩
  | fuel + 1 =>
    let item := parseValue fuel text
    match item.rest with
    | none => ⟨([item.value], none), none⟩
    | some rest =>
      let others := parseItems fuel false rest
      ⟨(item.value :: others.value.1, others.value.2), others.rest⟩

def parseEntries (fuel : Nat) (first : Bool) (text : List Char) :
    Parsed (List (Tree × Tree) × Option Flaw) :=
  match fuel with
  | 0 => ⟨([], some .endInObject), none⟩
  | fuel + 1 =>
    match text.dropWhile isBlank with
    | [] => ⟨([], some .endInObject), none⟩
    | '}' :: rest => ⟨([], none), some rest⟩
    | c :: rest =>
      if first then parseEntry fuel (c :: rest)
      else if c = ',' then
        match rest.dropWhile isBlank with
        | [] => ⟨([], some .endInValue), none⟩
        | '}' :: _ => ⟨([], some .trailingComma), none⟩
        | following => parseEntry fuel following
      else ⟨([], some .expectedObjectCommaOrEnd), none⟩

/-- An entry and those after it.  A colon that is missing is a flaw in the place of the value. -/
def parseEntry (fuel : Nat) (text : List Char) : Parsed (List (Tree × Tree) × Option Flaw) :=
  match fuel with
  | 0 => ⟨([], some .endInObject), none⟩
  | fuel + 1 =>
    let key := parseValue fuel text
    match key.rest.map (List.dropWhile isBlank) with
    | none => ⟨([(key.value, .flawed .endInObject)], none), none⟩
    | some [] => ⟨([(key.value, .flawed .endInObject)], none), none⟩
    | some (c :: rest) =>
      if c = ':' then
        let value := parseValue fuel rest
        match value.rest with
        | none => ⟨([(key.value, value.value)], none), none⟩
        | some rest =>
          let others := parseEntries fuel false rest
          ⟨((key.value, value.value) :: others.value.1, others.value.2), others.rest⟩
      else ⟨([(key.value, .flawed .expectedColon)], none), none⟩

end

/-- A text as a value and the flaw of what stands behind it. -/
structure Tree.Whole where
  root : Tree
  trailing : Option Flaw

def Tree.ofText (text : String) : Tree.Whole :=
  let characters := text.toList
  let parsed := parseValue (3 * characters.length + 3) characters
  match parsed.rest.map (List.dropWhile isBlank) with
  | some (_ :: _) => ⟨parsed.value, some .trailingCharacters⟩
  | _ => ⟨parsed.value, none⟩

end VersionedApi.Json
