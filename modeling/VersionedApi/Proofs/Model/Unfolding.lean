import Mathlib.Data.List.Perm.Subperm
import VersionedApi.Model.Version

/-!
# Unfolding lists and maps

A list or map leads to the type that it holds, and a chain of them to a type
that is neither.  In a version whose lists and maps come after what they hold,
the end of the chain can be computed.  In any version a chain that has an end
leads through no more lists and maps than there are types.
-/

namespace VersionedApi.Model

/-- What a list or map holds; a type of another kind holds nothing. -/
def TypeKind.element? : TypeKind → Option TypeId
  | .list element | .map element => some element
  | _ => none

namespace Version

/-- Every list and map comes after the type that it holds. -/
def Ordered (version : Version) : Prop :=
  ∀ id type element, version.type? id = some type →
    type.kind.element? = some element → element.index < id.index

/-- The chain of lists and maps from a number ends at a type that is neither. -/
inductive EndsAt (version : Version) : TypeId → ApiType → Prop where
  | here {id : TypeId} {type : ApiType} (found : version.type? id = some type)
      (plain : type.kind.element? = none) : EndsAt version id type
  | inside {id element : TypeId} {type last : ApiType} (found : version.type? id = some type)
      (holds : type.kind.element? = some element) (inner : EndsAt version element last) :
      EndsAt version id last

/-- The end of the chain from a number, as long as the chain leads to smaller numbers. -/
def innermost? (version : Version) (id : TypeId) : Option ApiType :=
  match version.type? id with
  | none => none
  | some type =>
    match type.kind.element? with
    | none => some type
    | some element =>
      if element.index < id.index then version.innermost? element else none
termination_by id.index

theorem EndsAt.of_innermost? {version : Version} {id : TypeId} {last : ApiType}
    (ends : version.innermost? id = some last) : version.EndsAt id last := by
  induction id using innermost?.induct version with
  | case1 id missing => rw [innermost?, missing] at ends; cases ends
  | case2 id type found plain =>
      rw [innermost?] at ends
      simp only [found, plain, Option.some.injEq] at ends
      exact ends ▸ .here found plain
  | case3 id type found element holds earlier ih =>
      rw [innermost?] at ends
      simp only [found, holds, earlier, if_true] at ends
      exact .inside found holds (ih ends)
  | case4 id type found element holds later =>
      rw [innermost?] at ends
      simp only [found, holds, later, if_false] at ends
      cases ends

theorem EndsAt.innermost? {version : Version} (ordered : version.Ordered) {id : TypeId}
    {last : ApiType} (ends : version.EndsAt id last) : version.innermost? id = some last := by
  induction ends with
  | here found plain => rw [Version.innermost?]; simp only [found, plain]
  | inside found holds inner ih =>
      have earlier := ordered _ _ _ found holds
      rw [Version.innermost?]
      simp only [found, holds, earlier, if_true]
      exact ih

/-- In an ordered version the computed end is the end of the chain. -/
theorem innermost?_eq_some_iff {version : Version} (ordered : version.Ordered) {id : TypeId}
    {last : ApiType} : version.innermost? id = some last ↔ version.EndsAt id last :=
  ⟨EndsAt.of_innermost?, EndsAt.innermost? ordered⟩

/-- In an ordered version every chain from a number in use has an end. -/
theorem exists_endsAt {version : Version} (ordered : version.Ordered) {id : TypeId}
    (used : id.index < version.types.length) : ∃ last, version.EndsAt id last := by
  induction id using innermost?.induct version with
  | case1 id missing =>
      rw [type?, List.getElem?_eq_getElem used] at missing
      cases missing
  | case2 id type found plain => exact ⟨type, .here found plain⟩
  | case3 id type found element holds earlier ih =>
      obtain ⟨last, inner⟩ := ih (by omega)
      exact ⟨last, .inside found holds inner⟩
  | case4 id type found element holds later =>
      exact absurd (ordered _ _ _ found holds) later

/-- The chain of lists and maps from a number ends at the interface. -/
def isShapeless (version : Version) (id : TypeId) : Bool :=
  (version.innermost? id).any (·.kind = .interface)

theorem isShapeless_eq {version : Version} (ordered : version.Ordered) {id : TypeId}
    {last : ApiType} (ends : version.EndsAt id last) :
    version.isShapeless id = decide (last.kind = .interface) := by
  rw [isShapeless, (innermost?_eq_some_iff ordered).2 ends]
  rfl

end Version

/-! ## Chains in any version -/

inductive Wrapping where
  | list
  | map
  deriving Repr, DecidableEq

def Wrapping.around : Wrapping → TypeId → TypeKind
  | list => .list
  | map => .map

theorem Wrapping.element?_around (wrapping : Wrapping) (element : TypeId) :
    (wrapping.around element).element? = some element := by
  cases wrapping <;> rfl

/-- A kind that holds something is a list or map of it. -/
theorem TypeKind.exists_around {kind : TypeKind} {element : TypeId}
    (holds : kind.element? = some element) :
    ∃ wrapping : Wrapping, kind = wrapping.around element := by
  cases kind with
  | list inner => exact ⟨.list, congrArg _ (Option.some.inj holds)⟩
  | map inner => exact ⟨.map, congrArg _ (Option.some.inj holds)⟩
  | primitive scalar => cases holds
  | interface => cases holds
  | enum values => cases holds
  | struct attributes identified => cases holds

namespace Version

/--
The lists and maps that a number leads through, from the outside in, and the
number behind them, which dangles or belongs to a type of another kind.
-/
inductive Unfolds (version : Version) : TypeId → List Wrapping → TypeId → Prop where
  | leaf {id : TypeId} (plain : ∀ type, version.type? id = some type → type.kind.element? = none) :
      Unfolds version id [] id
  | inside {id element leaf : TypeId} {type : ApiType} {wrapping : Wrapping}
      {wrappings : List Wrapping} (found : version.type? id = some type)
      (kind : type.kind = wrapping.around element)
      (inner : Unfolds version element wrappings leaf) :
      Unfolds version id (wrapping :: wrappings) leaf

/-- A chain with an end in a version unfolds to it. -/
theorem EndsAt.exists_unfolds {version : Version} {id : TypeId} {last : ApiType}
    (ends : version.EndsAt id last) :
    ∃ wrappings leaf, version.Unfolds id wrappings leaf ∧ version.type? leaf = some last := by
  induction ends with
  | @here id type found plain =>
      refine ⟨[], id, .leaf fun other same => ?_, found⟩
      rw [found] at same
      exact Option.some.inj same ▸ plain
  | inside found holds inner ih =>
      obtain ⟨wrappings, leaf, unfolds, ended⟩ := ih
      obtain ⟨wrapping, kind⟩ := TypeKind.exists_around holds
      exact ⟨wrapping :: wrappings, leaf, .inside found kind unfolds, ended⟩

namespace Unfolds

variable {version : Version} {id leaf : TypeId} {wrappings : List Wrapping}

/-- A number unfolds in one way. -/
theorem unique (unfolds : version.Unfolds id wrappings leaf) {others : List Wrapping}
    {other : TypeId} (again : version.Unfolds id others other) :
    wrappings = others ∧ leaf = other := by
  induction unfolds generalizing others with
  | leaf plain =>
      cases again with
      | leaf => exact ⟨rfl, rfl⟩
      | @inside _ element _ _ wrapping _ found kind =>
          have holds := plain _ found
          rw [kind, wrapping.element?_around] at holds
          cases holds
  | @inside _ element _ type wrapping _ found kind inner ih =>
      cases again with
      | leaf plain =>
          have holds := plain _ found
          rw [kind, wrapping.element?_around] at holds
          cases holds
      | @inside _ elementAgain _ typeAgain wrappingAgain _ foundAgain kindAgain innerAgain =>
          obtain rfl : type = typeAgain := Option.some.inj (found.symm.trans foundAgain)
          rw [kind] at kindAgain
          have same : wrapping = wrappingAgain ∧ element = elementAgain := by
            cases wrapping <;> cases wrappingAgain <;> cases kindAgain <;> exact ⟨rfl, rfl⟩
          obtain ⟨rfl, rfl⟩ := same
          obtain ⟨rfl, rfl⟩ := ih innerAgain
          exact ⟨rfl, rfl⟩

/-- The lists and maps on the way have numbers in use, and no two have the same. -/
theorem exists_numbers (unfolds : version.Unfolds id wrappings leaf) :
    ∃ numbers : List Nat, numbers.length = wrappings.length ∧ numbers.Nodup ∧
      ∀ number ∈ numbers, number < version.types.length ∧
        ∃ rest, rest.length ≤ wrappings.length ∧ version.Unfolds ⟨number⟩ rest leaf := by
  induction unfolds with
  | leaf plain => exact ⟨[], rfl, List.nodup_nil, nofun⟩
  | @inside id element leaf type wrapping wrappings found kind inner ih =>
      obtain ⟨numbers, length, distinct, each⟩ := ih
      have whole : version.Unfolds id (wrapping :: wrappings) leaf := .inside found kind inner
      -- What comes later unfolds to less, so the chain does not come back to this number.
      have fresh : id.index ∉ numbers := by
        intro again
        obtain ⟨-, rest, short, unfolds⟩ := each _ again
        rw [← (whole.unique unfolds).1, List.length_cons] at short
        omega
      refine ⟨id.index :: numbers, by simp [length], List.nodup_cons.2 ⟨fresh, distinct⟩, ?_⟩
      refine List.forall_mem_cons.2 ⟨⟨?_, _, Nat.le_refl _, whole⟩, fun number member => ?_⟩
      · exact (List.getElem?_eq_some_iff.1 found).1
      · obtain ⟨used, rest, short, unfolds⟩ := each number member
        exact ⟨used, rest, Nat.le_succ_of_le short, unfolds⟩

/-- A chain leads through no more lists and maps than the version has types. -/
theorem length_le (unfolds : version.Unfolds id wrappings leaf) :
    wrappings.length ≤ version.types.length := by
  obtain ⟨numbers, length, distinct, each⟩ := unfolds.exists_numbers
  have among : numbers ⊆ List.range version.types.length := fun number member =>
    List.mem_range.2 (each number member).1
  have bound := (List.subperm_of_subset distinct among).length_le
  rwa [length, List.length_range] at bound

end Unfolds

end Version

end VersionedApi.Model
