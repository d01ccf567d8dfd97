import VersionedApi.Source.Fault

/-!
# Reading values out of a source

A description is read in the same way whatever notation it is written in.  A
notation tells how its nodes are seen as texts, flags, lists and records; here
these views are put together, so that every value is read when its turn comes
in the text and the first fault is the one that counts.
-/

namespace VersionedApi.Source

/-! ## Reading -/

/--
Reading something: it may enter so many further levels of nesting, it may
follow so many further references to earlier nodes, and it may meet a fault.
-/
abbrev Reading := ReaderT Nat (StateT Nat (Except Fault))

namespace Reading

def stop {α : Type} (fault : Fault) : Reading α :=
  throw fault

/-- Stop at a mismatch whose place is known further out. -/
def mismatch {α : Type} (cause : Mismatch) : Reading α :=
  stop (.mismatch none cause)

def stopAt : Option Fault → Reading Unit
  | none => pure ()
  | some fault => stop fault

def mapFault {α : Type} (change : Fault → Fault) (reading : Reading α) : Reading α :=
  fun depth references =>
    match reading depth references with
    | .ok result => .ok result
    | .error fault => .error (change fault)

/-- Read inside a value. -/
def under {α : Type} (step : PlaceStep) (reading : Reading α) : Reading α :=
  reading.mapFault (Fault.under step)

/-- Read a value that gives its place to faults without one. -/
def settle {α : Type} (reading : Reading α) : Reading α :=
  reading.mapFault Fault.settle

/-- Read one level of nesting further down. -/
def nested {α : Type} (reading : Reading α) : Reading α :=
  fun depth references =>
    match depth with
    | 0 => .error (.unreadable "recursion limit exceeded")
    | depth + 1 => reading depth references

def followReference : Reading Unit :=
  fun _ references =>
    match references with
    | 0 => .error (.unreadable "repetition limit exceeded")
    | references + 1 => .ok ((), references)

def run {α : Type} (reading : Reading α) (depth references : Nat) : Except Fault α :=
  (reading depth references).map (·.1)

end Reading

/-! ## Views -/

structure Row (α : Type) where
  items : List α
  /-- The fault in the place of a further member or of the end. -/
  ending : Option Fault

/-- What a source says where it may say several things. -/
inductive Datum where
  | text (value : String)
  | natural (value : Nat)
  | record (entries : List (Datum × Datum))
  | other
  deriving Inhabited

/-- The members of a record: under their names, or in the order of the fields. -/
inductive Members (node : Type) where
  | named (entries : Row (node × node))
  | positional (items : Row node)

structure View (node : Type) where
  text : node → Reading String
  flag : node → Reading Bool
  /-- One of several words. -/
  variant : List String → node → Reading String
  list : node → Reading (Row node)
  /-- A record; the text is what a message calls it. -/
  members : String → node → Reading (Members node)
  /-- A key of a record. -/
  key : node → Reading String
  /-- The step to the value of a key. -/
  keyStep : node → PlaceStep
  /-- Pass over a node without asking what it says. -/
  skip : node → Reading Unit
  /-- A node of any shape. -/
  datum : node → Reading Datum
  /-- The fault of a row that should have no further items. -/
  closing : Row node → Option Fault

structure Field (node result : Type) where
  name : String
  required : Bool
  read : node → Reading (result → result)

namespace View

variable {node result : Type}

def required {α : Type} (name : String) (read : node → Reading α) (store : α → result → result) :
    Field node result :=
  ⟨name, true, fun source => store <$> read source⟩

def optional {α : Type} (name : String) (read : node → Reading α) (store : α → result → result) :
    Field node result :=
  ⟨name, false, fun source => store <$> read source⟩

def each {α : Type} (view : View node) (read : node → Reading α) (source : node) :
    Reading (List α) :=
  Reading.settle do
    let row ← view.list source
    Reading.nested do
      let values ← row.items.zipIdx.mapM fun (item, index) =>
        Reading.under (.index index) (read item)
      Reading.stopAt row.ending
      return values

/-- Read the entries of a record in the order they are written, and keep what was read. -/
def entries (view : View node) (fields : List (Field node result)) :
    List (node × node) → result → List String → Reading (result × List String)
  | [], present, seen => return (present, seen)
  | (key, value) :: rest, present, seen => do
    let name ← view.key key
    match fields.find? (·.name == name) with
    | none =>
      view.skip value
      view.entries fields rest present seen
    | some field =>
      if seen.contains name then
        Reading.mismatch (.repeatedField name)
      else
        let store ← Reading.under (view.keyStep key) (field.read value)
        view.entries fields rest (store present) (name :: seen)

def items (view : View node) (description : String) (row : Row node) :
    List (Field node result) → List node → Nat → result → Reading result
  | [], rest, _, present => do
    Reading.stopAt (view.closing ⟨rest, row.ending⟩)
    return present
  | field :: fields, [], index, present => do
    Reading.stopAt row.ending
    if field.required then
      Reading.mismatch (.tooShort index description)
    else
      view.items description row fields [] index present
  | field :: fields, item :: rest, index, present => do
    let store ← field.read item
    view.items description row fields rest (index + 1) (store present)

/-- Read a record, beginning with one whose fields have their default values. -/
def record (view : View node) (label : String) (fields : List (Field node result))
    (start : result) (source : node) : Reading result :=
  Reading.settle do
    match ← view.members label source with
    | .named row =>
      Reading.nested do
        let (result, seen) ← view.entries fields row.items start []
        Reading.stopAt row.ending
        match fields.find? fun field => field.required && !seen.contains field.name with
        | some field => Reading.mismatch (.missingField field.name)
        | none => return result
    | .positional row =>
      Reading.nested do
        let description := label ++ " with " ++ toString fields.length ++
          (if fields.length = 1 then " element" else " elements")
        view.items description row fields row.items 0 start

end View

end VersionedApi.Source
