import VersionedApi.Document.Node

/-!
# Edits

A document is described by the steps that build it.  A step stores a value or
opens an object or array and takes further steps inside it, so every scope is
closed where its steps end and nesting cannot go wrong.  Opening a scope that
is already there extends it; a value of another kind gives way to an empty
scope in the same place.
-/

namespace VersionedApi.Document

mutual

inductive FieldStep where
  | field (key : String) (value : Node)
  | object (key : String) (steps : List FieldStep)
  | array (key : String) (steps : List ItemStep)
  /-- Ask whether the object has any fields yet; nothing changes. -/
  | probe
  deriving Repr, Inhabited

inductive ItemStep where
  | item (value : Node)
  | object (steps : List FieldStep)
  | array (steps : List ItemStep)
  deriving Repr, Inhabited

end

/-- The fields that an object scope starts from. -/
def openObject : Option Node → Fields
  | some (.object fields) => fields
  | _ => []

/-- The items that an array scope starts from. -/
def openArray : Option Node → Items
  | some (.array items) => items
  | _ => []

/-! ## Taking steps -/

mutual

def FieldStep.run : FieldStep → Fields → Fields
  | .field key value, fields => Fields.put key value fields
  | .object key steps, fields =>
    Fields.alter key (fun slot => .object (runFields steps (openObject slot))) fields
  | .array key steps, fields =>
    Fields.alter key (fun slot => .array (runItems steps (openArray slot))) fields
  | .probe, fields => fields

def ItemStep.run : ItemStep → Items → Items
  | .item value, items => items ++ [value]
  | .object steps, items => items ++ [.object (runFields steps [])]
  | .array steps, items => items ++ [.array (runItems steps [])]

def runFields : List FieldStep → Fields → Fields
  | [], fields => fields
  | step :: rest, fields => runFields rest (step.run fields)

def runItems : List ItemStep → Items → Items
  | [], items => items
  | step :: rest, items => runItems rest (step.run items)

end

/-- The object that steps build from nothing. -/
def build (steps : List FieldStep) : Fields :=
  runFields steps []

theorem runFields_append (first second : List FieldStep) (fields : Fields) :
    runFields (first ++ second) fields = runFields second (runFields first fields) := by
  induction first generalizing fields with
  | nil => simp [runFields]
  | cons step rest ih => simp [runFields, ih]

theorem runItems_append (first second : List ItemStep) (items : Items) :
    runItems (first ++ second) items = runItems second (runItems first items) := by
  induction first generalizing items with
  | nil => simp [runItems]
  | cons step rest ih => simp [runItems, ih]

/-! ## Answers of probes -/

mutual

/-- What the probes in one step of an object answer, in order. -/
def FieldStep.answers : FieldStep → Fields → List Bool
  | .field _ _, _ => []
  | .object key steps, fields => fieldAnswers steps (openObject (fields.get? key))
  | .array key steps, fields => itemAnswers steps (openArray (fields.get? key))
  | .probe, fields => [fields.isEmpty]

def ItemStep.answers : ItemStep → Items → List Bool
  | .item _, _ => []
  | .object steps, _ => fieldAnswers steps []
  | .array steps, _ => itemAnswers steps []

def fieldAnswers : List FieldStep → Fields → List Bool
  | [], _ => []
  | step :: rest, fields => step.answers fields ++ fieldAnswers rest (step.run fields)

def itemAnswers : List ItemStep → Items → List Bool
  | [], _ => []
  | step :: rest, items => step.answers items ++ itemAnswers rest (step.run items)

end

end VersionedApi.Document
