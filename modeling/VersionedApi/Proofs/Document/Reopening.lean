import VersionedApi.Proofs.Document.Fields

/-!
# Scopes that are opened again

A scope that is opened again goes on where it was closed, whatever was written
at other keys in between.  It might as well never have been closed: once its key
has a place, a change at this key and a step at another one do not meet.
-/

namespace VersionedApi.Document

/-! ## Changes at a key that is there -/

/-- Of two changes at one key the later one sees what the earlier one made. -/
theorem Fields.alter_alter (key : String) (first second : Option Node → Node) (fields : Fields) :
    Fields.alter key second (Fields.alter key first fields) =
      Fields.alter key (fun slot => second (some (first slot))) fields := by
  induction fields with
  | nil => simp [Fields.alter]
  | cons field rest ih =>
      obtain ⟨present, value⟩ := field
      by_cases same : present = key
      · simp [Fields.alter, same]
      · simp [Fields.alter, same, ih]

/--
Changes at two keys commute if one of the keys is there.  If neither is, the
order of the changes is the order in which the keys come to stand.
-/
theorem Fields.alter_comm {key other : String} (different : other ≠ key) {fields : Fields}
    (known : key ∈ fields.keys) (change otherChange : Option Node → Node) :
    Fields.alter other otherChange (Fields.alter key change fields) =
      Fields.alter key change (Fields.alter other otherChange fields) := by
  induction fields with
  | nil => cases known
  | cons field rest ih =>
      obtain ⟨present, value⟩ := field
      by_cases here : present = key
      · subst here
        simp [Fields.alter, Ne.symm different]
      · have later : key ∈ Fields.keys rest :=
          (List.mem_cons.1 known).resolve_left (Ne.symm here)
        by_cases there : present = other
        · simp [Fields.alter, there, different]
        · simp [Fields.alter, here, there, ih later]

/-! ## Steps at other keys -/

variable {key : String} {fields : Fields}

/-- A step at another key commutes with a change at a key that is there. -/
theorem FieldStep.run_alter {step : FieldStep} (elsewhere : step.key? ≠ some key)
    (known : key ∈ fields.keys) (change : Option Node → Node) :
    step.run (Fields.alter key change fields) = Fields.alter key change (step.run fields) := by
  have different {other : String} (written : step.key? = some other) : other ≠ key :=
    fun same => elsewhere (same ▸ written)
  cases step with
  | field other value => exact Fields.alter_comm (different rfl) known change _
  | object other steps =>
      rw [FieldStep.run, FieldStep.run]
      exact Fields.alter_comm (different rfl) known change _
  | array other steps =>
      rw [FieldStep.run, FieldStep.run]
      exact Fields.alter_comm (different rfl) known change _
  | probe => rfl

/-- No step takes a key away. -/
theorem FieldStep.mem_keys_run (step : FieldStep) (known : key ∈ fields.keys) :
    key ∈ Fields.keys (step.run fields) := by
  have kept : key ∈ Fields.keys (runFields [step] fields) := mem_keys_runFields.2 (.inl known)
  exact kept

/-- Steps at other keys commute with a change at a key that is there. -/
theorem runFields_alter {steps : List FieldStep}
    (elsewhere : ∀ step ∈ steps, step.key? ≠ some key) (known : key ∈ fields.keys)
    (change : Option Node → Node) :
    runFields steps (Fields.alter key change fields) =
      Fields.alter key change (runFields steps fields) := by
  induction steps generalizing fields with
  | nil => rfl
  | cons step rest ih =>
      obtain ⟨first, later⟩ := List.forall_mem_cons.1 elsewhere
      calc runFields (step :: rest) (Fields.alter key change fields)
          = runFields rest (step.run (Fields.alter key change fields)) := by rw [runFields]
        _ = runFields rest (Fields.alter key change (step.run fields)) := by
            rw [FieldStep.run_alter first known]
        _ = Fields.alter key change (runFields rest (step.run fields)) :=
            ih later (step.mem_keys_run known)
        _ = Fields.alter key change (runFields (step :: rest) fields) := by rw [runFields]

/-- A change at a key may be made before the steps at other keys that follow an earlier one. -/
theorem alter_runFields_alter {between : List FieldStep}
    (elsewhere : ∀ step ∈ between, step.key? ≠ some key) (first second : Option Node → Node)
    (fields : Fields) :
    Fields.alter key second (runFields between (Fields.alter key first fields)) =
      runFields between (Fields.alter key (fun slot => second (some (first slot))) fields) := by
  have known : key ∈ Fields.keys (Fields.alter key first fields) := by
    rw [Fields.keys_alter]
    split
    · assumption
    · exact List.mem_append_right _ List.mem_cons_self
  rw [← Fields.alter_alter, runFields_alter elsewhere known]

/-! ## Scopes -/

/--
To open an object, write at other keys and open it again is the same as to take
all steps in it at once, and so it is with an array.  Whatever the key held
before, if anything, the outcome agrees in all values and in the order of keys.
-/
theorem runFields_reopened {key : String} {between : List FieldStep}
    (elsewhere : ∀ step ∈ between, step.key? ≠ some key) (fields : Fields) :
    (∀ first second : List FieldStep,
      runFields (.object key first :: between ++ [.object key second]) fields =
        runFields (.object key (first ++ second) :: between) fields) ∧
    ∀ first second : List ItemStep,
      runFields (.array key first :: between ++ [.array key second]) fields =
        runFields (.array key (first ++ second) :: between) fields := by
  constructor
  · -- The second scope starts from the fields that the first one left.
    intro first second
    simp only [List.cons_append, runFields, runFields_append, FieldStep.run,
      alter_runFields_alter elsewhere, openObject]
  · intro first second
    simp only [List.cons_append, runFields, runFields_append, runItems_append, FieldStep.run,
      alter_runFields_alter elsewhere, openArray]

/-- Steps that keep away from the key `paths`, but open a scope of that name inside another. -/
def aside : List FieldStep :=
  [.field "openapi" (.text "3.0.0"), .object "info" [.object "paths" [.probe]], .probe]

/-- An object that holds a text where a scope will be opened. -/
def occupied : Fields :=
  [("paths", .text "none"), ("info", .object [("title", .text "clusters_mgmt")])]

theorem runFields_reopened_occupied :
    (∀ step ∈ aside, step.key? ≠ some "paths") ∧
    runFields (.object "paths" [.field "a" (.flag true)] :: aside ++
        [.object "paths" [.field "b" (.flag true), .field "a" (.flag false)]]) occupied =
      [("paths", .object [("a", .flag false), ("b", .flag true)]),
        ("info", .object [("title", .text "clusters_mgmt"), ("paths", .object [])]),
        ("openapi", .text "3.0.0")] ∧
    runFields (.array "paths" [.item (.text "a")] :: aside ++
        [.array "paths" [.item (.text "b")]]) occupied =
      [("paths", .array [.text "a", .text "b"]),
        ("info", .object [("title", .text "clusters_mgmt"), ("paths", .object [])]),
        ("openapi", .text "3.0.0")] := by
  have elsewhere : ∀ step ∈ aside, step.key? ≠ some "paths" := by
    simp [aside, FieldStep.key?]
  obtain ⟨objects, arrays⟩ := runFields_reopened elsewhere occupied
  exact ⟨elsewhere, (objects _ _).trans rfl, (arrays _ _).trans rfl⟩

end VersionedApi.Document
