import VersionedApi.Proofs.Document.Fields

/-!
# Objects only grow

No step takes a key away or moves it: a value that gives way to another one
leaves its key where it is, and a new key comes last.  So an object in which no
key is repeated, at any depth, stays like that, and an array that is only ever
opened keeps its items in front.
-/

namespace VersionedApi.Document

/-! ## Keys that differ -/

/-- No object in a node repeats a key, at whatever depth it stands. -/
inductive Node.KeysDiffer : Node → Prop where
  | text (value : String) : KeysDiffer (.text value)
  | flag (value : Bool) : KeysDiffer (.flag value)
  | object {fields : Fields} (once : fields.keys.Nodup)
      (inner : ∀ field ∈ fields, KeysDiffer field.2) : KeysDiffer (.object fields)
  | array {items : Items} (inner : ∀ item ∈ items, KeysDiffer item) : KeysDiffer (.array items)

theorem Node.keysDiffer_object_iff {fields : Fields} :
    (Node.object fields).KeysDiffer ↔
      fields.keys.Nodup ∧ ∀ field ∈ fields, field.2.KeysDiffer := by
  constructor
  · rintro (_ | _ | ⟨once, inner⟩)
    exact ⟨once, inner⟩
  · rintro ⟨once, inner⟩
    exact .object once inner

theorem Node.keysDiffer_array_iff {items : Items} :
    (Node.array items).KeysDiffer ↔ ∀ item ∈ items, item.KeysDiffer := by
  constructor
  · rintro (_ | _ | _ | inner)
    exact inner
  · exact .array

/-- A change at a key repeats none: the key is there and stays, or it is new and comes last. -/
theorem Fields.keysDiffer_alter {key : String} {change : Option Node → Node} {fields : Fields}
    (differ : (Node.object fields).KeysDiffer)
    (changed : ∀ slot : Option Node, (∀ value ∈ slot, value.KeysDiffer) →
      (change slot).KeysDiffer) :
    (Node.object (Fields.alter key change fields)).KeysDiffer := by
  obtain ⟨once, inner⟩ := Node.keysDiffer_object_iff.1 differ
  refine .object ?_ fun field member => ?_
  · rw [Fields.keys_alter]
    split
    · exact once
    · next fresh =>
        refine List.nodup_append.2 ⟨once, by simp, fun old known new last => ?_⟩
        obtain rfl := List.mem_singleton.1 last
        exact fun same => fresh (same ▸ known)
  · rcases Fields.mem_alter member with old | ⟨slot, inside, rfl⟩
    · exact inner field old
    · exact changed slot fun value among => inner _ (inside value among)

theorem Node.keysDiffer_object_nil : (Node.object []).KeysDiffer :=
  .object List.nodup_nil (by simp)

theorem Node.keysDiffer_array_nil : (Node.array []).KeysDiffer :=
  .array (by simp)

theorem keysDiffer_openObject {slot : Option Node} (differ : ∀ value ∈ slot, value.KeysDiffer) :
    (Node.object (openObject slot)).KeysDiffer := by
  unfold openObject
  split
  · exact differ _ rfl
  · exact Node.keysDiffer_object_nil

theorem keysDiffer_openArray {slot : Option Node} (differ : ∀ value ∈ slot, value.KeysDiffer) :
    (Node.array (openArray slot)).KeysDiffer := by
  unfold openArray
  split
  · exact differ _ rfl
  · exact Node.keysDiffer_array_nil

theorem Node.keysDiffer_concat {items : Items} {item : Node}
    (differ : (Node.array items).KeysDiffer) (last : item.KeysDiffer) :
    (Node.array (items ++ [item])).KeysDiffer := by
  refine .array (List.forall_mem_append.2 ⟨Node.keysDiffer_array_iff.1 differ, ?_⟩)
  simpa using last

/-! ## Nodes that steps are given -/

mutual

/-- The nodes that a step in an object stores as they are, in its own scope or deeper. -/
def FieldStep.given : FieldStep → List Node
  | .field _ value => [value]
  | .object _ steps => givenToFields steps
  | .array _ steps => givenToItems steps
  | .probe => []

def ItemStep.given : ItemStep → List Node
  | .item value => [value]
  | .object steps => givenToFields steps
  | .array steps => givenToItems steps

def givenToFields : List FieldStep → List Node
  | [] => []
  | step :: rest => step.given ++ givenToFields rest

def givenToItems : List ItemStep → List Node
  | [] => []
  | step :: rest => step.given ++ givenToItems rest

end

/-! ## Runs repeat no key -/

mutual

/-- A step repeats no key, in its own scope or deeper. -/
theorem FieldStep.keysDiffer_run :
    (step : FieldStep) → {fields : Fields} → (∀ value ∈ step.given, value.KeysDiffer) →
      (Node.object fields).KeysDiffer → (Node.object (step.run fields)).KeysDiffer
  | .field key value, fields, given, differ => by
      have stored : value.KeysDiffer := given value (by simp [FieldStep.given])
      rw [FieldStep.run]
      exact Fields.keysDiffer_alter differ fun _ _ => stored
  | .object key steps, fields, given, differ => by
      rw [FieldStep.run]
      refine Fields.keysDiffer_alter differ fun slot inside => ?_
      exact keysDiffer_runFields steps given (keysDiffer_openObject inside)
  | .array key steps, fields, given, differ => by
      rw [FieldStep.run]
      refine Fields.keysDiffer_alter differ fun slot inside => ?_
      exact keysDiffer_runItems steps given (keysDiffer_openArray inside)
  | .probe, fields, given, differ => differ

theorem ItemStep.keysDiffer_run :
    (step : ItemStep) → {items : Items} → (∀ value ∈ step.given, value.KeysDiffer) →
      (Node.array items).KeysDiffer → (Node.array (step.run items)).KeysDiffer
  | .item value, items, given, differ => by
      rw [ItemStep.run]
      exact Node.keysDiffer_concat differ (given value (by simp [ItemStep.given]))
  | .object steps, items, given, differ => by
      have built : (Node.object (runFields steps [])).KeysDiffer :=
        keysDiffer_runFields steps given Node.keysDiffer_object_nil
      rw [ItemStep.run]
      exact Node.keysDiffer_concat differ built
  | .array steps, items, given, differ => by
      have built : (Node.array (runItems steps [])).KeysDiffer :=
        keysDiffer_runItems steps given Node.keysDiffer_array_nil
      rw [ItemStep.run]
      exact Node.keysDiffer_concat differ built

/-- Steps repeat no key where the object and the nodes that they store do not. -/
theorem keysDiffer_runFields :
    (steps : List FieldStep) → {fields : Fields} →
      (∀ value ∈ givenToFields steps, value.KeysDiffer) → (Node.object fields).KeysDiffer →
      (Node.object (runFields steps fields)).KeysDiffer
  | [], _, _, differ => differ
  | step :: rest, _, given, differ => by
      obtain ⟨first, later⟩ := List.forall_mem_append.1 given
      exact keysDiffer_runFields rest later (FieldStep.keysDiffer_run step first differ)

theorem keysDiffer_runItems :
    (steps : List ItemStep) → {items : Items} →
      (∀ value ∈ givenToItems steps, value.KeysDiffer) → (Node.array items).KeysDiffer →
      (Node.array (runItems steps items)).KeysDiffer
  | [], _, _, differ => differ
  | step :: rest, _, given, differ => by
      obtain ⟨first, later⟩ := List.forall_mem_append.1 given
      exact keysDiffer_runItems rest later (ItemStep.keysDiffer_run step first differ)

end

/-! ## Arrays that are opened -/

theorem ItemStep.prefix_run (step : ItemStep) (items : Items) : items <+: step.run items := by
  cases step with
  | item value => exact List.prefix_append _ _
  | object steps => rw [ItemStep.run]; exact List.prefix_append _ _
  | array steps => rw [ItemStep.run]; exact List.prefix_append _ _

/-- Steps in an array leave the items that are there in front. -/
theorem prefix_runItems (steps : List ItemStep) (items : Items) :
    items <+: runItems steps items := by
  induction steps generalizing items with
  | nil => exact List.prefix_refl items
  | cons step rest ih => exact (step.prefix_run items).trans (ih (step.run items))

/-- An array that is opened, once or several times, and never replaced keeps its items in front. -/
theorem exists_array_of_opened {steps : List FieldStep} {fields : Fields} {key : String}
    {items : Items} (held : Fields.get? fields key = some (.array items))
    (opened : ∀ step ∈ steps, step.key? = some key → ∃ inner, step = .array key inner) :
    ∃ later, Fields.get? (runFields steps fields) key = some (.array later) ∧
      items <+: later := by
  induction steps generalizing fields items with
  | nil => exact ⟨items, held, List.prefix_refl items⟩
  | cons step rest ih =>
      obtain ⟨first, others⟩ := List.forall_mem_cons.1 opened
      by_cases written : step.key? = some key
      · obtain ⟨inner, rfl⟩ := first written
        have reopened : Fields.get? (FieldStep.run (.array key inner) fields) key =
            some (.array (runItems inner items)) := by
          rw [FieldStep.run, Fields.get?_alter_self, held]
          rfl
        obtain ⟨later, found, leads⟩ := ih reopened others
        exact ⟨later, found, (prefix_runItems inner items).trans leads⟩
      · exact ih ((get?_run_of_ne written fields).trans held) others

/-! ## Objects that are opened -/

/-- The steps that are taken inside the object under a key, scope after scope. -/
def stepsInside (key : String) (steps : List FieldStep) : List FieldStep :=
  steps.flatMap fun step =>
    match step with
    | .object present inner => if present = key then inner else []
    | _ => []

theorem stepsInside_object (key : String) (inner rest : List FieldStep) :
    stepsInside key (.object key inner :: rest) = inner ++ stepsInside key rest := by
  simp [stepsInside]

theorem stepsInside_of_ne {key : String} {step : FieldStep} (different : step.key? ≠ some key)
    (rest : List FieldStep) : stepsInside key (step :: rest) = stepsInside key rest := by
  cases step with
  | object present inner =>
      have other : present ≠ key := fun same => different (congrArg some same)
      simp [stepsInside, other]
  | _ => rfl

/-- An object that is opened, once or several times, and never replaced goes on from its fields. -/
theorem get?_runFields_of_opened {steps : List FieldStep} {fields inner : Fields} {key : String}
    (held : Fields.get? fields key = some (.object inner))
    (opened : ∀ step ∈ steps, step.key? = some key → ∃ scope, step = .object key scope) :
    Fields.get? (runFields steps fields) key =
      some (.object (runFields (stepsInside key steps) inner)) := by
  induction steps generalizing fields inner with
  | nil => exact held
  | cons step rest ih =>
      obtain ⟨first, others⟩ := List.forall_mem_cons.1 opened
      by_cases written : step.key? = some key
      · obtain ⟨scope, rfl⟩ := first written
        have reopened : Fields.get? (FieldStep.run (.object key scope) fields) key =
            some (.object (runFields scope inner)) := by
          rw [FieldStep.run, Fields.get?_alter_self, held]
          rfl
        rw [stepsInside_object, runFields_append]
        exact ih reopened others
      · rw [stepsInside_of_ne written]
        exact ih ((get?_run_of_ne written fields).trans held) others

/-! ## Objects -/

/--
Steps only extend an object.  None repeats a key at any depth; the keys that were
there stay in their places, and the new ones come behind them in the order in
which they are first written; a key that no step writes at keeps its value; and
an array keeps its items in front if all that is done to it is to open it.  An
object that is only opened is extended in its turn: it becomes what the steps
inside its scopes make of it, so its keys stay in front, and those that no such
step writes at keep their values.
-/
theorem runFields_extends {steps : List FieldStep} {fields : Fields}
    (differ : (Node.object fields).KeysDiffer)
    (given : ∀ value ∈ givenToFields steps, value.KeysDiffer) :
    (Node.object (runFields steps fields)).KeysDiffer ∧
    Fields.keys (runFields steps fields) =
      fields.keys ++
        (steps.filterMap FieldStep.key?).eraseDups.filter (· ∉ fields.keys) ∧
    (∀ key, (∀ step ∈ steps, step.key? ≠ some key) →
      Fields.get? (runFields steps fields) key = fields.get? key) ∧
    (∀ key items, fields.get? key = some (.array items) →
      (∀ step ∈ steps, step.key? = some key → ∃ inner, step = .array key inner) →
      ∃ later, Fields.get? (runFields steps fields) key = some (.array later) ∧
        items <+: later) ∧
    ∀ key inner, fields.get? key = some (.object inner) →
      (∀ step ∈ steps, step.key? = some key → ∃ scope, step = .object key scope) →
      let later := runFields (stepsInside key steps) inner
      Fields.get? (runFields steps fields) key = some (.object later) ∧
        Fields.keys inner <+: Fields.keys later ∧
        ∀ name, (∀ step ∈ stepsInside key steps, step.key? ≠ some name) →
          Fields.get? later name = Fields.get? inner name := by
  refine ⟨keysDiffer_runFields steps given differ, keys_runFields steps fields,
    fun _ unwritten => get?_runFields_of_unwritten unwritten,
    fun _ _ held opened => exists_array_of_opened held opened, ?_⟩
  intro key inner held opened later
  have front : Fields.keys inner <+: Fields.keys later := by
    rw [keys_runFields]
    exact List.prefix_append _ _
  exact ⟨get?_runFields_of_opened held opened, front,
    fun _ unwritten => get?_runFields_of_unwritten unwritten⟩

/-- An object that holds a text, an object and an array, in which keys come again. -/
def shelf : Fields :=
  [("title", .text "none"), ("paths", .object [("title", .flag true)]),
    ("tags", .array [.object [("title", .text "a")]])]

/-- Steps that replace, reopen and add, and store a whole node. -/
def rearrange : List FieldStep :=
  [.field "info" (.object [("title", .text "b"), ("tags", .array [])]),
    .array "tags" [.object [.field "title" (.flag true), .field "title" (.flag false)]],
    .object "title" [.array "title" []], .probe, .object "paths" [.field "get" (.flag true)],
    .field "info" (.text "c"), .field "components" (.text "d"), .array "tags" [],
    .object "paths" [.object "post" [.field "title" (.flag false)], .field "get" (.text "e")]]

theorem runFields_extends_shelf :
    (Node.object shelf).KeysDiffer ∧ (∀ value ∈ givenToFields rearrange, value.KeysDiffer) ∧
    Fields.keys (runFields rearrange shelf) = ["title", "paths", "tags", "info", "components"] ∧
    Fields.get? (runFields rearrange shelf) "title" = some (.object [("title", .array [])]) ∧
    (∃ later, Fields.get? (runFields rearrange shelf) "tags" = some (.array later) ∧
      [.object [("title", .text "a")]] <+: later) ∧
    ∃ later, Fields.get? (runFields rearrange shelf) "paths" = some (.object later) ∧
      ["title"] <+: Fields.keys later ∧ Fields.get? later "title" = some (.flag true) ∧
      Fields.get? later "get" = some (.text "e") := by
  have differ : (Node.object shelf).KeysDiffer := by
    simp [shelf, Node.keysDiffer_object_iff, Node.keysDiffer_array_iff, Fields.keys,
      Node.KeysDiffer.text, Node.KeysDiffer.flag]
  have given : ∀ value ∈ givenToFields rearrange, value.KeysDiffer := by
    simp [rearrange, givenToFields, givenToItems, FieldStep.given, ItemStep.given,
      Node.keysDiffer_object_iff, Node.keysDiffer_array_iff, Fields.keys,
      Node.KeysDiffer.text, Node.KeysDiffer.flag]
  obtain ⟨-, keys, -, arrays, objects⟩ := runFields_extends differ given
  obtain ⟨found, front, kept⟩ := objects "paths" _ rfl (by simp [rearrange, FieldStep.key?])
  refine ⟨differ, given, keys.trans (by decide), rfl, arrays "tags" _ rfl ?_, _, found, front,
    kept "title" ?_, rfl⟩
  · simp [rearrange, FieldStep.key?]
  · simp [rearrange, stepsInside, FieldStep.key?]

end VersionedApi.Document
