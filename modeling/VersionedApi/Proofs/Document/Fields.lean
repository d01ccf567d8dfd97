import Mathlib.Data.List.Induction
import VersionedApi.Document.Edit

/-!
# Fields of a document

What the fields anywhere in a document are like follows from the steps that
built it: a rule that every step obeys holds of every field.  The keys at the
top are those of the steps, and a key that one step alone has holds what this
step writes by itself.
-/

namespace VersionedApi.Document

/-! ## Lists without repetition -/

section Lists

variable {α : Type} [DecidableEq α]

theorem nodup_eraseDups (members : List α) : members.eraseDups.Nodup := by
  induction members using List.reverseRec with
  | nil => exact List.nodup_nil
  | append_singleton front last ih =>
      rw [List.eraseDups_append]
      by_cases known : last ∈ front
      · simpa [known, List.removeAll] using ih
      · simp [known, List.removeAll, List.eraseDups_cons, List.nodup_append, ih]
        rintro other member rfl
        exact known member

theorem eraseDups_eq_self_iff {members : List α} :
    members.eraseDups = members ↔ members.Nodup := by
  constructor
  · intro same
    exact same ▸ nodup_eraseDups members
  · intro distinct
    induction members using List.reverseRec with
    | nil => rfl
    | append_singleton front last ih =>
        obtain ⟨distinctFront, -, apart⟩ := List.nodup_append.1 distinct
        have fresh : last ∉ front := fun known =>
          apart last known last List.mem_cons_self rfl
        rw [List.eraseDups_append, ih distinctFront]
        simp [fresh, List.removeAll, List.eraseDups_cons]

end Lists

/-! ## Fields at any depth -/

/-- A field stands somewhere in a node. -/
inductive Occurs (key : String) (value : Node) : Node → Prop where
  | here {fields : Fields} (member : (key, value) ∈ fields) : Occurs key value (.object fields)
  | inField {fields : Fields} {other : String} {inner : Node} (member : (other, inner) ∈ fields)
      (deeper : Occurs key value inner) : Occurs key value (.object fields)
  | inItem {items : Items} {inner : Node} (member : inner ∈ items)
      (deeper : Occurs key value inner) : Occurs key value (.array items)

/-- Every field anywhere in a node obeys a rule. -/
def Node.Obeys (rule : String → Node → Prop) (node : Node) : Prop :=
  ∀ key value, Occurs key value node → rule key value

def Fields.Obey (rule : String → Node → Prop) (fields : Fields) : Prop :=
  ∀ field ∈ fields, rule field.1 field.2 ∧ field.2.Obeys rule

variable {rule : String → Node → Prop}

theorem Node.obeys_text (value : String) : (Node.text value).Obeys rule := by
  intro key inner occurs
  cases occurs

theorem Node.obeys_flag (value : Bool) : (Node.flag value).Obeys rule := by
  intro key inner occurs
  cases occurs

theorem Node.obeys_object_iff {fields : Fields} :
    (Node.object fields).Obeys rule ↔ fields.Obey rule := by
  constructor
  · intro obeys field member
    exact ⟨obeys _ _ (.here member), fun key value deeper => obeys _ _ (.inField member deeper)⟩
  · intro obey key value occurs
    cases occurs with
    | here member => exact (obey _ member).1
    | inField member deeper => exact (obey _ member).2 _ _ deeper

theorem Node.obeys_array_iff {items : Items} :
    (Node.array items).Obeys rule ↔ ∀ item ∈ items, item.Obeys rule := by
  constructor
  · intro obeys item member key value deeper
    exact obeys _ _ (.inItem member deeper)
  · intro obey key value occurs
    cases occurs with
    | inItem member deeper => exact obey _ member _ _ deeper

/-- A change at a key makes one field, of the value that was there, and leaves the others. -/
theorem Fields.mem_alter {key : String} {change : Option Node → Node} {fields : Fields}
    {field : String × Node} (member : field ∈ Fields.alter key change fields) :
    field ∈ fields ∨
      ∃ slot, (∀ value ∈ slot, (key, value) ∈ fields) ∧ field = (key, change slot) := by
  induction fields with
  | nil => exact .inr ⟨none, nofun, List.mem_singleton.1 member⟩
  | cons first rest ih =>
      obtain ⟨present, value⟩ := first
      unfold Fields.alter at member
      split at member
      · next same =>
          subst same
          rcases List.mem_cons.1 member with rfl | later
          · exact .inr ⟨some value, by rintro _ ⟨⟩; exact List.mem_cons_self, rfl⟩
          · exact .inl (List.mem_cons_of_mem _ later)
      · rcases List.mem_cons.1 member with rfl | later
        · exact .inl List.mem_cons_self
        · rcases ih later with old | ⟨slot, inside, rfl⟩
          · exact .inl (List.mem_cons_of_mem _ old)
          · exact .inr ⟨slot, fun value among => List.mem_cons_of_mem _ (inside value among), rfl⟩

theorem Fields.obey_alter {key : String} {change : Option Node → Node} {fields : Fields}
    (obey : fields.Obey rule)
    (changed : ∀ slot : Option Node, (∀ value ∈ slot, value.Obeys rule) →
      rule key (change slot) ∧ (change slot).Obeys rule) :
    (Fields.alter key change fields).Obey rule := by
  intro field member
  rcases Fields.mem_alter member with old | ⟨slot, inside, rfl⟩
  · exact obey field old
  · exact changed slot fun value among => (obey _ (inside value among)).2

/-! ## Steps that obey a rule -/

mutual

/-- A step in an object writes nothing that breaks a rule, whatever else its scopes hold. -/
def FieldStep.Obeys (rule : String → Node → Prop) : FieldStep → Prop
  | .field key value => rule key value ∧ value.Obeys rule
  | .object key steps => (∀ fields, rule key (.object fields)) ∧ FieldStep.AllObey rule steps
  | .array key steps => (∀ items, rule key (.array items)) ∧ ItemStep.AllObey rule steps
  | .probe => True

def ItemStep.Obeys (rule : String → Node → Prop) : ItemStep → Prop
  | .item value => value.Obeys rule
  | .object steps => FieldStep.AllObey rule steps
  | .array steps => ItemStep.AllObey rule steps

def FieldStep.AllObey (rule : String → Node → Prop) : List FieldStep → Prop
  | [] => True
  | step :: rest => step.Obeys rule ∧ FieldStep.AllObey rule rest

def ItemStep.AllObey (rule : String → Node → Prop) : List ItemStep → Prop
  | [] => True
  | step :: rest => step.Obeys rule ∧ ItemStep.AllObey rule rest

end

theorem FieldStep.allObey_iff {steps : List FieldStep} :
    FieldStep.AllObey rule steps ↔ ∀ step ∈ steps, step.Obeys rule := by
  induction steps with
  | nil => simp [FieldStep.AllObey]
  | cons step rest ih => simp [FieldStep.AllObey, ih]

theorem ItemStep.allObey_iff {steps : List ItemStep} :
    ItemStep.AllObey rule steps ↔ ∀ step ∈ steps, step.Obeys rule := by
  induction steps with
  | nil => simp [ItemStep.AllObey]
  | cons step rest ih => simp [ItemStep.AllObey, ih]

theorem obey_openObject {slot : Option Node} (obeys : ∀ value ∈ slot, value.Obeys rule) :
    (openObject slot).Obey rule := by
  unfold openObject
  split
  · exact Node.obeys_object_iff.1 (obeys _ rfl)
  · exact nofun

theorem obey_openArray {slot : Option Node} (obeys : ∀ value ∈ slot, value.Obeys rule) :
    ∀ item ∈ openArray slot, item.Obeys rule := by
  unfold openArray
  split
  · exact Node.obeys_array_iff.1 (obeys _ rfl)
  · exact nofun

mutual

/-- A step that obeys a rule keeps an object that does. -/
theorem FieldStep.obey_run {rule : String → Node → Prop} :
    (step : FieldStep) → {fields : Fields} → step.Obeys rule → fields.Obey rule →
      Fields.Obey rule (step.run fields)
  | .field key value, fields, obeys, obey => by
      rw [FieldStep.run]
      exact Fields.obey_alter obey fun slot _ => obeys
  | .object key steps, fields, obeys, obey => by
      rw [FieldStep.run]
      refine Fields.obey_alter obey fun slot open_ => ⟨obeys.1 _, ?_⟩
      exact Node.obeys_object_iff.2 (obey_runFields steps obeys.2 (obey_openObject open_))
  | .array key steps, fields, obeys, obey => by
      rw [FieldStep.run]
      refine Fields.obey_alter obey fun slot open_ => ⟨obeys.1 _, ?_⟩
      exact Node.obeys_array_iff.2 (obey_runItems steps obeys.2 (obey_openArray open_))
  | .probe, fields, obeys, obey => obey

/-- A step that obeys a rule keeps an array that does. -/
theorem ItemStep.obey_run {rule : String → Node → Prop} :
    (step : ItemStep) → {items : Items} → step.Obeys rule → (∀ item ∈ items, item.Obeys rule) →
      ∀ item ∈ step.run items, item.Obeys rule
  | .item value, items, obeys, obey => by
      rw [ItemStep.run]
      exact List.forall_mem_append.2 ⟨obey, by simpa [ItemStep.Obeys] using obeys⟩
  | .object steps, items, obeys, obey => by
      rw [ItemStep.run]
      have built : Fields.Obey rule (runFields steps []) := obey_runFields steps obeys nofun
      exact List.forall_mem_append.2 ⟨obey, by simpa [Node.obeys_object_iff] using built⟩
  | .array steps, items, obeys, obey => by
      rw [ItemStep.run]
      have built : ∀ item ∈ runItems steps [], item.Obeys rule :=
        obey_runItems steps obeys nofun
      exact List.forall_mem_append.2 ⟨obey, by simpa [Node.obeys_array_iff] using built⟩

/-- Steps that obey a rule keep an object that does. -/
theorem obey_runFields {rule : String → Node → Prop} :
    (steps : List FieldStep) → {fields : Fields} → FieldStep.AllObey rule steps →
      fields.Obey rule → Fields.Obey rule (runFields steps fields)
  | [], _, _, obey => obey
  | step :: rest, _, obeys, obey =>
      obey_runFields rest obeys.2 (FieldStep.obey_run step obeys.1 obey)

/-- Steps that obey a rule keep an array that does. -/
theorem obey_runItems {rule : String → Node → Prop} :
    (steps : List ItemStep) → {items : Items} → ItemStep.AllObey rule steps →
      (∀ item ∈ items, item.Obeys rule) → ∀ item ∈ runItems steps items, item.Obeys rule
  | [], _, _, obey => obey
  | step :: rest, _, obeys, obey =>
      obey_runItems rest obeys.2 (ItemStep.obey_run step obeys.1 obey)

end

/-- Every field anywhere in a document obeys the rules that its steps obey. -/
theorem obeys_build {steps : List FieldStep} (obeys : FieldStep.AllObey rule steps) :
    (Node.object (build steps)).Obeys rule :=
  Node.obeys_object_iff.2 (obey_runFields steps obeys nofun)

/-! ## Keys at the top -/

def FieldStep.key? : FieldStep → Option String
  | .field key _ | .object key _ | .array key _ => some key
  | .probe => none

theorem keys_run (step : FieldStep) (fields : Fields) :
    Fields.keys (step.run fields) =
      match step.key? with
      | none => Fields.keys fields
      | some key =>
        if key ∈ Fields.keys fields then Fields.keys fields else Fields.keys fields ++ [key] := by
  cases step with
  | field key value => rw [FieldStep.run]; exact Fields.keys_alter _ _ _
  | object key steps => rw [FieldStep.run]; exact Fields.keys_alter _ _ _
  | array key steps => rw [FieldStep.run]; exact Fields.keys_alter _ _ _
  | probe => rfl

/--
The keys of an object stay in their places, and behind them come those that steps
were the first to write at, in the order in which they did.
-/
theorem keys_runFields (steps : List FieldStep) (fields : Fields) :
    Fields.keys (runFields steps fields) =
      fields.keys ++
        (steps.filterMap FieldStep.key?).eraseDups.filter (· ∉ fields.keys) := by
  induction steps using List.reverseRec with
  | nil => simp [runFields]
  | append_singleton front step ih =>
      rw [runFields_append, runFields, runFields, keys_run, ih, List.filterMap_append,
        List.eraseDups_append]
      cases written : step.key? with
      | none => simp [written]
      | some key =>
          rw [List.filterMap_cons_some written, List.filterMap_nil]
          generalize front.filterMap FieldStep.key? = keys
          by_cases old : key ∈ fields.keys
          · by_cases known : key ∈ keys <;>
              simp [old, known, List.removeAll, List.eraseDups_cons]
          · by_cases known : key ∈ keys <;>
              simp [old, known, List.removeAll, List.eraseDups_cons]

theorem mem_keys_runFields {steps : List FieldStep} {fields : Fields} {key : String} :
    key ∈ Fields.keys (runFields steps fields) ↔
      key ∈ Fields.keys fields ∨ ∃ step ∈ steps, step.key? = some key := by
  rw [keys_runFields]
  by_cases known : key ∈ fields.keys <;> simp [known]

/-- Steps at keys that all differ write these keys in their order. -/
theorem keys_runFields_of_nodup {steps : List FieldStep} {fields : Fields}
    (distinct : (Fields.keys fields ++ steps.filterMap FieldStep.key?).Nodup) :
    Fields.keys (runFields steps fields) =
      Fields.keys fields ++ steps.filterMap FieldStep.key? := by
  obtain ⟨-, once, apart⟩ := List.nodup_append.1 distinct
  have fresh : ∀ key ∈ steps.filterMap FieldStep.key?, key ∉ fields.keys :=
    fun key written known => apart key known key written rfl
  rw [keys_runFields, eraseDups_eq_self_iff.2 once,
    List.filter_eq_self.2 (by simpa using fresh)]

/-- The keys of an object that was built stand in the order in which steps first wrote at them. -/
theorem keys_build (steps : List FieldStep) :
    Fields.keys (build steps) = (steps.filterMap FieldStep.key?).eraseDups := by
  rw [build, keys_runFields]
  simp [Fields.keys]

/-- A step keeps the value under every key but its own. -/
theorem get?_run_of_ne {step : FieldStep} {key : String} (different : step.key? ≠ some key)
    (fields : Fields) : Fields.get? (step.run fields) key = Fields.get? fields key := by
  cases step with
  | field present value =>
      rw [FieldStep.run]
      exact Fields.get?_alter_of_ne _ _ (fun same => different (same ▸ rfl))
  | object present steps =>
      rw [FieldStep.run]
      exact Fields.get?_alter_of_ne _ _ (fun same => different (same ▸ rfl))
  | array present steps =>
      rw [FieldStep.run]
      exact Fields.get?_alter_of_ne _ _ (fun same => different (same ▸ rfl))
  | probe => rfl

/-- A key that no step writes at keeps its value. -/
theorem get?_runFields_of_unwritten {steps : List FieldStep} {fields : Fields} {key : String}
    (unwritten : ∀ step ∈ steps, step.key? ≠ some key) :
    Fields.get? (runFields steps fields) key = Fields.get? fields key := by
  induction steps generalizing fields with
  | nil => rfl
  | cons step rest ih =>
      rw [runFields, ih fun other member => unwritten other (List.mem_cons_of_mem _ member)]
      exact get?_run_of_ne (unwritten step List.mem_cons_self) fields

/-! ## Objects side by side -/

theorem Fields.alter_append_of_not_mem {key : String} {front : Fields} (fresh : key ∉ front.keys)
    (change : Option Node → Node) (back : Fields) :
    Fields.alter key change (front ++ back) = front ++ Fields.alter key change back := by
  induction front with
  | nil => rfl
  | cons field front ih =>
      obtain ⟨different, later⟩ := not_or.1 (mt List.mem_cons.2 fresh)
      rw [List.cons_append, Fields.alter, if_neg (Ne.symm different), ih later]
      rfl

/-- A step leaves the fields in front alone if it writes at none of their keys. -/
theorem FieldStep.run_append {step : FieldStep} {front : Fields}
    (unwritten : ∀ key ∈ front.keys, step.key? ≠ some key) (back : Fields) :
    step.run (front ++ back) = front ++ step.run back := by
  have fresh {key : String} (written : step.key? = some key) : key ∉ front.keys :=
    fun known => unwritten key known written
  cases step with
  | field key value => exact Fields.alter_append_of_not_mem (fresh rfl) _ back
  | object key steps =>
      rw [FieldStep.run, FieldStep.run]
      exact Fields.alter_append_of_not_mem (fresh rfl) _ back
  | array key steps =>
      rw [FieldStep.run, FieldStep.run]
      exact Fields.alter_append_of_not_mem (fresh rfl) _ back
  | probe => rfl

/-- Steps that write at no key of an object add to it what they write by themselves. -/
theorem runFields_of_unwritten {steps : List FieldStep} {fields : Fields}
    (unwritten : ∀ step ∈ steps, ∀ key ∈ fields.keys, step.key? ≠ some key) :
    runFields steps fields = fields ++ build steps := by
  have extended (back : Fields) :
      runFields steps (fields ++ back) = fields ++ runFields steps back := by
    induction steps generalizing back with
    | nil => rfl
    | cons step rest ih =>
        obtain ⟨first, later⟩ := List.forall_mem_cons.1 unwritten
        rw [runFields, FieldStep.run_append first, ih later, runFields]
  simpa [build] using extended []

/-- What steps write, each by itself. -/
def apart (steps : List FieldStep) : Fields :=
  steps.flatMap fun step => step.run []

theorem apart_append (first second : List FieldStep) :
    apart (first ++ second) = apart first ++ apart second :=
  List.flatMap_append

theorem FieldStep.run_nil (step : FieldStep) :
    step.run [] = [] ∧ step.key? = none ∨
      ∃ key value, step.run [] = [(key, value)] ∧ step.key? = some key := by
  cases step with
  | field key value => exact .inr ⟨key, _, rfl, rfl⟩
  | object key steps => exact .inr ⟨key, _, rfl, rfl⟩
  | array key steps => exact .inr ⟨key, _, rfl, rfl⟩
  | probe => exact .inl ⟨rfl, rfl⟩

theorem keys_apart (steps : List FieldStep) :
    (apart steps).keys = steps.filterMap FieldStep.key? := by
  induction steps with
  | nil => rfl
  | cons step rest ih =>
      have shape : (apart (step :: rest)).keys =
          Fields.keys (step.run []) ++ (apart rest).keys := by
        simp [apart, Fields.keys]
      rw [shape, ih, List.filterMap_cons]
      obtain ⟨none, silent⟩ | ⟨key, value, one, written⟩ := step.run_nil
      · rw [none, silent]
        rfl
      · rw [one, written]
        rfl

/-- What is written at keys that all differ stands side by side. -/
theorem runFields_eq_append_apart {steps : List FieldStep} {fields : Fields}
    (distinct : (fields.keys ++ (apart steps).keys).Nodup) :
    runFields steps fields = fields ++ apart steps := by
  rw [keys_apart] at distinct
  induction steps generalizing fields with
  | nil => simp [runFields, apart]
  | cons step rest ih =>
      have unwritten : ∀ key ∈ fields.keys, step.key? ≠ some key := by
        intro key known written
        rw [List.filterMap_cons_some written] at distinct
        exact (List.nodup_append.1 distinct).2.2 key known key List.mem_cons_self rfl
      have first : step.run fields = fields ++ step.run [] := by
        simpa using FieldStep.run_append unwritten []
      have later : (Fields.keys (step.run fields) ++ rest.filterMap FieldStep.key?).Nodup := by
        have whole := keys_apart (step :: rest)
        have other := keys_apart rest
        rw [← whole] at distinct
        rw [← other, first]
        simpa [apart, Fields.keys] using distinct
      rw [runFields, ih later, first, List.append_assoc]
      rfl

theorem build_eq_apart {steps : List FieldStep} (distinct : (apart steps).keys.Nodup) :
    build steps = apart steps :=
  runFields_eq_append_apart distinct

/-- Objects that are opened at keys that all differ stand side by side. -/
theorem build_objects {α : Type} (key : α → String) (steps : α → List FieldStep)
    {members : List α} (distinct : (members.map key).Nodup) :
    build (members.map fun member => .object (key member) (steps member)) =
      members.map fun member => (key member, .object (build (steps member))) := by
  have side : apart (members.map fun member => .object (key member) (steps member)) =
      members.map fun member => (key member, .object (build (steps member))) := by
    rw [apart, List.flatMap_map, List.map_eq_flatMap]
    rfl
  rw [build_eq_apart, side]
  rw [side]
  simpa [Fields.keys, Function.comp_def] using distinct

/-- Objects that are added to an array stand behind its items. -/
theorem runItems_objects {α : Type} (steps : α → List FieldStep) (members : List α)
    (items : Items) :
    runItems (members.map fun member => .object (steps member)) items =
      items ++ members.map fun member => .object (build (steps member)) := by
  induction members generalizing items with
  | nil => simp [runItems]
  | cons member rest ih =>
      rw [List.map_cons, runItems, ItemStep.run, ih, List.append_assoc]
      rfl

/-! ## Several steps at one key -/

/-- What a step makes of the value under a key depends on this value alone. -/
theorem get?_run_congr (step : FieldStep) {fields others : Fields} {key : String}
    (same : Fields.get? fields key = Fields.get? others key) :
    Fields.get? (step.run fields) key = Fields.get? (step.run others) key := by
  by_cases written : step.key? = some key
  · cases step with
    | field present value =>
        obtain rfl : present = key := Option.some.inj written
        simp only [FieldStep.run, Fields.put, Fields.get?_alter_self]
    | object present steps =>
        obtain rfl : present = key := Option.some.inj written
        simp only [FieldStep.run, Fields.get?_alter_self, same]
    | array present steps =>
        obtain rfl : present = key := Option.some.inj written
        simp only [FieldStep.run, Fields.get?_alter_self, same]
    | probe => cases written
  · rw [get?_run_of_ne written, get?_run_of_ne written, same]

theorem get?_runFields_congr (steps : List FieldStep) {fields others : Fields} {key : String}
    (same : Fields.get? fields key = Fields.get? others key) :
    Fields.get? (runFields steps fields) key = Fields.get? (runFields steps others) key := by
  induction steps generalizing fields others with
  | nil => exact same
  | cons step rest ih => exact ih (get?_run_congr step same)

/-- The value under a key is what the steps at this key make of it, one after the other. -/
theorem get?_runFields_filter (steps : List FieldStep) (fields : Fields) (key : String) :
    Fields.get? (runFields steps fields) key =
      Fields.get? (runFields (steps.filter (·.key? == some key)) fields) key := by
  induction steps generalizing fields with
  | nil => rfl
  | cons step rest ih =>
      rw [runFields]
      by_cases written : step.key? = some key
      · rw [List.filter_cons_of_pos (by simpa using written), runFields, ih]
      · rw [List.filter_cons_of_neg (by simpa using written), ih]
        exact get?_runFields_congr _ (get?_run_of_ne written fields)

/-- A key that one step alone writes holds what this step writes by itself. -/
theorem get?_build_alone (before after : List FieldStep) {step : FieldStep} {key : String}
    (unwrittenBefore : ∀ other ∈ before, other.key? ≠ some key)
    (unwrittenAfter : ∀ other ∈ after, other.key? ≠ some key) :
    Fields.get? (build (before ++ step :: after)) key = Fields.get? (step.run []) key := by
  rw [build, runFields_append, runFields, get?_runFields_of_unwritten unwrittenAfter]
  exact get?_run_congr step (get?_runFields_of_unwritten unwrittenBefore)

/-- An object that one step alone writes holds what this step writes by itself. -/
theorem get?_build_object (before after : List FieldStep) {inner : List FieldStep} {key : String}
    (unwrittenBefore : ∀ step ∈ before, step.key? ≠ some key)
    (unwrittenAfter : ∀ step ∈ after, step.key? ≠ some key) :
    Fields.get? (build (before ++ .object key inner :: after)) key =
      some (.object (build inner)) := by
  rw [get?_build_alone before after unwrittenBefore unwrittenAfter, FieldStep.run,
    Fields.get?_alter_self]
  rfl

/-- Where no two fields share a key, each is found under its own. -/
theorem Fields.get?_of_mem {fields : Fields} {key : String} {value : Node}
    (distinct : fields.keys.Nodup) (member : (key, value) ∈ fields) :
    fields.get? key = some value := by
  obtain ⟨before, after, rfl⟩ := List.append_of_mem member
  rw [Fields.keys, List.map_append, List.nodup_append] at distinct
  refine List.lookup_eq_some_iff.2 ⟨before, after, rfl, fun other among => bne_iff_ne.2 ?_⟩
  exact (distinct.2.2 _ (List.mem_map_of_mem among) _ List.mem_cons_self).symm

/-! ## Pointers -/

def Node.textAt? (node : Node) (key : String) : Option String :=
  (node.pointer? [key]).bind Node.asText?

theorem Node.bind_asText?_eq_some_iff {found : Option Node} {value : String} :
    found.bind Node.asText? = some value ↔ found = some (.text value) := by
  cases found with
  | none => simp
  | some node => cases node <;> simp [Node.asText?]

/-- A pointer goes on from the value under its first key. -/
theorem Node.pointer?_object {fields : Fields} {key : String} {value : Node}
    (found : Fields.get? fields key = some value) {keys : List String} :
    (Node.object fields).pointer? (key :: keys) = value.pointer? keys := by
  rw [Node.pointer?, found]

/-- A pointer goes on from the node that its front leads to. -/
theorem Node.pointer?_append (node : Node) (front back : List String) :
    node.pointer? (front ++ back) = (node.pointer? front).bind (·.pointer? back) := by
  induction front generalizing node with
  | nil => rfl
  | cons key rest ih =>
      cases node with
      | object fields =>
          rw [List.cons_append, Node.pointer?, Node.pointer?]
          cases Fields.get? fields key with
          | none => rfl
          | some next => exact ih next
      | _ => rfl

/-- A pointer that leads somewhere starts at a field of an object. -/
theorem Node.exists_of_pointer?_cons {node target : Node} {key : String} {keys : List String}
    (leads : node.pointer? (key :: keys) = some target) :
    ∃ fields value, node = .object fields ∧ (key, value) ∈ fields ∧
      value.pointer? keys = some target := by
  cases node with
  | object fields =>
      rw [Node.pointer?] at leads
      cases found : Fields.get? fields key with
      | none => rw [found] at leads; cases leads
      | some value =>
          rw [found] at leads
          obtain ⟨before, after, rfl, -⟩ := List.lookup_eq_some_iff.1 found
          exact ⟨_, value, rfl, by simp, leads⟩
  | _ => cases leads

/-- What a pointer leads to occurs under its last key. -/
theorem Node.occurs_of_pointer? (keys : List String) (key : String) {node value : Node}
    (leads : node.pointer? (keys ++ [key]) = some value) : Occurs key value node := by
  induction keys generalizing node with
  | nil =>
      obtain ⟨fields, found, rfl, member, ends⟩ := Node.exists_of_pointer?_cons leads
      rw [Node.pointer?] at ends
      obtain rfl := Option.some.inj ends
      exact .here member
  | cons first rest ih =>
      obtain ⟨fields, next, rfl, member, later⟩ := Node.exists_of_pointer?_cons leads
      exact .inField member (ih later)

end VersionedApi.Document
