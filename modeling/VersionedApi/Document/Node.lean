/-!
# Document nodes

A document is a tree of texts, flags, objects and arrays.  The fields of an
object keep the order in which their keys first appeared; replacing a value
leaves its key where it is.
-/

namespace VersionedApi.Document

inductive Node where
  | text (value : String)
  | flag (value : Bool)
  | object (fields : List (String × Node))
  | array (items : List Node)
  deriving Repr, Inhabited

abbrev Fields := List (String × Node)

abbrev Items := List Node

namespace Node

def asText? : Node → Option String
  | text value => some value
  | _ => none

def asObject? : Node → Option Fields
  | object fields => some fields
  | _ => none

def asArray? : Node → Option Items
  | array items => some items
  | _ => none

end Node

namespace Fields

def get? (fields : Fields) (key : String) : Option Node :=
  List.lookup key fields

def keys (fields : Fields) : List String :=
  fields.map (·.1)

/--
Give a key the value that `change` makes of the present one.  A key that is
there keeps its place, a new key comes last.
-/
def alter (key : String) (change : Option Node → Node) : Fields → Fields
  | [] => [(key, change none)]
  | (present, value) :: rest =>
    if present = key then (present, change (some value)) :: rest
    else (present, value) :: alter key change rest

def put (key : String) (value : Node) (fields : Fields) : Fields :=
  alter key (fun _ => value) fields

theorem get?_alter_self (key : String) (change : Option Node → Node) (fields : Fields) :
    get? (alter key change fields) key = some (change (get? fields key)) := by
  induction fields with
  | nil => simp [alter, get?]
  | cons field rest ih =>
      obtain ⟨present, value⟩ := field
      by_cases same : present = key
      · subst same; simp [alter, get?]
      · have other : (key == present) = false := by simpa using fun equal => same equal.symm
        simpa [alter, get?, same, List.lookup_cons, other] using ih

theorem get?_alter_of_ne {key other : String} (change : Option Node → Node) (fields : Fields)
    (different : other ≠ key) : get? (alter key change fields) other = get? fields other := by
  induction fields with
  | nil =>
      have unequal : (other == key) = false := by simpa using different
      simp [alter, get?, List.lookup_cons, unequal]
  | cons field rest ih =>
      obtain ⟨present, value⟩ := field
      by_cases same : present = key
      · subst same
        have unequal : (other == present) = false := by simpa using different
        simp [alter, get?, List.lookup_cons, unequal]
      · simp only [alter, same, if_false, get?, List.lookup_cons]
        cases other == present with
        | true => rfl
        | false => exact ih

theorem keys_alter (key : String) (change : Option Node → Node) (fields : Fields) :
    keys (alter key change fields) =
      if key ∈ keys fields then keys fields else keys fields ++ [key] := by
  induction fields with
  | nil => simp [alter, keys]
  | cons field rest ih =>
      obtain ⟨present, value⟩ := field
      by_cases same : present = key
      · subst same; simp [alter, keys]
      · have different : key ≠ present := fun equal => same equal.symm
        have shorter : keys (alter key change ((present, value) :: rest)) =
            present :: keys (alter key change rest) := by
          simp [alter, same, keys]
        have head : keys ((present, value) :: rest) = present :: keys rest := rfl
        rw [shorter, ih, head]
        by_cases member : key ∈ keys rest
        · simp [member]
        · simp [member, different]

end Fields

/-- The node that a sequence of object keys leads to. -/
def Node.pointer? (node : Node) : List String → Option Node
  | [] => some node
  | key :: keys =>
    match node with
    | .object fields =>
      match Fields.get? fields key with
      | some next => next.pointer? keys
      | none => none
    | _ => none

end VersionedApi.Document
