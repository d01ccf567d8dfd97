import VersionedApi.Model.Version

/-!
# References to types

A reference is the name of a type behind any number of marks, each of which
makes a list or a map of what follows it.  Blanks around each part do not
count.  To resolve a reference is to find the named type and to intern the list
and map types around it, from the inside out.
-/

namespace VersionedApi.Description

open VersionedApi.Model VersionedApi.Text

inductive TypeReference where
  | named (text : List Char)
  | list (element : TypeReference)
  | map (element : TypeReference)
  deriving Repr, DecidableEq

namespace TypeReference

def listMark : List Char :=
  ['[', ']']

def mapMark : List Char :=
  ['m', 'a', 'p', '[', 's', 't', 'r', 'i', 'n', 'g', ']']

/-- What follows a mark at the beginning of a text. -/
def afterMark? (mark text : List Char) : Option (List Char) :=
  if mark.isPrefixOf text then some (text.drop mark.length) else none

theorem length_afterMark_lt {mark text rest : List Char} (marked : mark ≠ [])
    (found : afterMark? mark text = some rest) : rest.length < text.length := by
  unfold afterMark? at found
  split at found
  · rename_i leads
    obtain ⟨tail, rfl⟩ := List.isPrefixOf_iff_prefix.1 leads
    have positive : 0 < mark.length := List.length_pos_iff.2 marked
    cases found
    simp only [List.drop_left, List.length_append]
    omega
  · cases found

theorem length_trim_le (text : List Char) : (trim text).length ≤ text.length := by
  have left := (List.dropWhile_suffix isBlank (l := text)).length_le
  have right :=
    (List.dropWhile_suffix isBlank (l := (text.dropWhile isBlank).reverse)).length_le
  simp only [List.length_reverse] at right
  simp only [trim, List.length_reverse]
  omega

def ofCharacters (text : List Char) : TypeReference :=
  match _list : afterMark? listMark (trim text) with
  | some element => list (ofCharacters element)
  | none =>
    match _map : afterMark? mapMark (trim text) with
    | some element => map (ofCharacters element)
    | none => named (trim text)
termination_by text.length
decreasing_by
  · have shorter := length_afterMark_lt (by decide) _list
    have trimmed := length_trim_le text
    omega
  · have shorter := length_afterMark_lt (by decide) _map
    have trimmed := length_trim_le text
    omega

def ofText (text : String) : TypeReference :=
  ofCharacters text.toList

/-- The reference without blanks around its parts. -/
def spell : TypeReference → List Char
  | named text => text
  | list element => listMark ++ element.spell
  | map element => mapMark ++ element.spell

/-- The name at the end of a reference. -/
def base : TypeReference → List Char
  | named text => text
  | list element => element.base
  | map element => element.base

/-- The type that a reference denotes, or the text of the name that denotes none. -/
def resolve (version : Version) : TypeReference → Except String (Version × TypeId)
  | named text =>
    match version.findType? (Name.ofText (String.ofList text)) with
    | some id => .ok (version, id)
    | none => .error (String.ofList text)
  | list element =>
    (element.resolve version).map fun (version, id) => version.listOf id
  | map element =>
    (element.resolve version).map fun (version, id) => version.mapOf id

end TypeReference

end VersionedApi.Description
