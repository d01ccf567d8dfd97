import VersionedApi.Description.Loading
import Mathlib.Data.List.Forall2

/-!
# Loads that succeed

Loading runs step by step and stops at the first fault.  A load that succeeds
therefore comes apart into steps that succeed, which is all that these lemmas
say.
-/

namespace VersionedApi.Description

variable {ε α β γ : Type}

theorem bind_eq_ok_iff {first : Except ε α} {next : α → Except ε β} {result : β} :
    first >>= next = .ok result ↔ ∃ value, first = .ok value ∧ next value = .ok result := by
  cases first with
  | error fault => simp [bind, Except.bind]
  | ok value => simp [bind, Except.bind]

theorem map_eq_ok_iff {first : Except ε α} {next : α → β} {result : β} :
    first.map next = .ok result ↔ ∃ value, first = .ok value ∧ next value = result := by
  cases first with
  | error fault => simp [Except.map]
  | ok value => simp [Except.map]

theorem exists_map_eq_ok_iff {first : Except ε α} {next : α → β} :
    (∃ result, first.map next = .ok result) ↔ ∃ value, first = .ok value := by
  cases first with
  | error fault => simp [Except.map]
  | ok value => simp [Except.map]

theorem mapError_eq_ok_iff {first : Except ε α} {rename : ε → γ} {result : α} :
    first.mapError rename = .ok result ↔ first = .ok result := by
  cases first with
  | error fault => simp [Except.mapError]
  | ok value => simp [Except.mapError]

theorem pure_eq_ok_iff {value result : α} :
    (pure value : Except ε α) = .ok result ↔ value = result := by
  simp [pure, Except.pure]

theorem exists_bind_pure_eq_ok_iff {first : Except ε α} {next : α → β} :
    (∃ result, (first >>= fun value => pure (next value)) = .ok result) ↔
      ∃ value, first = .ok value := by
  cases first with
  | error fault => simp [bind, Except.bind]
  | ok value => simp [bind, Except.bind, pure, Except.pure]

theorem exists_eq_ok_of_any {outcome : Except ε α} {test : α → Bool}
    (accepted : outcome.toOption.any test) : ∃ value, outcome = .ok value ∧ test value := by
  cases outcome with
  | error fault => cases accepted
  | ok value => exact ⟨value, rfl, accepted⟩

/-- A list is loaded by loading its members, one for one. -/
theorem mapM_eq_ok_iff {load : α → Except ε β} {inputs : List α} {results : List β} :
    inputs.mapM load = .ok results ↔
      List.Forall₂ (fun input result => load input = .ok result) inputs results := by
  induction inputs generalizing results with
  | nil => cases results <;> simp [pure_eq_ok_iff]
  | cons input rest ih =>
      simp only [List.mapM_cons, bind_eq_ok_iff, pure_eq_ok_iff, ih]
      constructor
      · rintro ⟨result, loaded, others, agree, rfl⟩
        exact .cons loaded agree
      · intro agree
        cases agree with
        | cons loaded others => exact ⟨_, loaded, _, others, rfl⟩

end VersionedApi.Description
