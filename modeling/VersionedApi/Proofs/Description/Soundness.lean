import VersionedApi.Proofs.Description.Agreement
import Mathlib.Data.List.Nodup

/-!
# Readings that loading bears out

A reading of references is sound if resolving a reference establishes it and
every later step of a load keeps it.  What agrees with its description by a
sound reading then agrees with it to the end.
-/

namespace VersionedApi.Description

open VersionedApi.Model

/--
A reading that loading bears out: it is kept by later steps, and resolving a
reference that is `known` establishes it.
-/
structure Sound (reads : Reading) (known : List Name → String → Prop) : Prop where
  keep : ∀ {count before after text id}, Keeps before after →
    reads count before text id → reads count after text id
  resolve : ∀ {version after named text id}, Arena version named →
    known (named.map (·.name)) text →
    (TypeReference.ofText text).resolve version = .ok (after, id) →
    reads named.length after text id

theorem sound_denotation : Sound denotation (fun names text => baseName text ∈ names) where
  keep keeps denotes := Denotes.keep keeps denotes
  resolve arena known resolved := arena.denotes known resolved

theorem sound_inUse : Sound inUse (fun _ _ => True) where
  keep keeps used := by
    obtain ⟨later, found, -⟩ := keeps.type (List.getElem?_eq_getElem used)
    exact (List.getElem?_eq_some_iff.1 found).1
  resolve arena _ resolved := (arena.resolve resolved).2

variable {reads : Reading} {known : List Name → String → Prop}

/-! ## Agreement is kept -/

section Keep

variable {count : Nat} {before after : Version}

theorem AttributeAgrees.keep (sound : Sound reads known) (keeps : Keeps before after)
    {description : AttributeDescription} {attr : Attribute}
    (agrees : AttributeAgrees reads count before description attr) :
    AttributeAgrees reads count after description attr :=
  { agrees with type := sound.keep keeps agrees.type }

theorem KindAgrees.keep (sound : Sound reads known) (keeps : Keeps before after)
    {description : TypeDescription} {kind : TypeKind}
    (agrees : KindAgrees reads count before description kind) :
    KindAgrees reads count after description kind := by
  cases agrees with
  | enum form agree => exact .enum form agree
  | struct form class_iff agree =>
      exact .struct form class_iff (agree.imp fun _ _ => AttributeAgrees.keep sound keeps)

theorem TypeAgrees.keep (sound : Sound reads known) (keeps : Keeps before after)
    {description : TypeDescription} {type : ApiType}
    (agrees : TypeAgrees reads count before description type) :
    TypeAgrees reads count after description type :=
  { agrees with kind := agrees.kind.keep sound keeps }

theorem ParameterAgrees.keep (sound : Sound reads known) (keeps : Keeps before after)
    {description : ParameterDescription} {parameter : Parameter}
    (agrees : ParameterAgrees reads count before description parameter) :
    ParameterAgrees reads count after description parameter :=
  { agrees with type := sound.keep keeps agrees.type }

theorem MethodAgrees.keep (sound : Sound reads known) (keeps : Keeps before after)
    {description : MethodDescription} {method : Method}
    (agrees : MethodAgrees reads count before description method) :
    MethodAgrees reads count after description method :=
  { agrees with parameters := agrees.parameters.imp fun _ _ => ParameterAgrees.keep sound keeps }

theorem LocatorAgrees.keep (keeps : Keeps before after) {description : LocatorDescription}
    {locator : Locator} (agrees : LocatorAgrees before description locator) :
    LocatorAgrees after description locator := by
  obtain ⟨resource, found, name⟩ := agrees.target
  obtain ⟨later, foundLater, same⟩ := keeps.resource found
  exact { agrees with target := ⟨later, foundLater, same.trans name⟩ }

theorem ResourceAgrees.keep (sound : Sound reads known) (keeps : Keeps before after)
    {description : ResourceDescription} {resource : Resource}
    (agrees : ResourceAgrees reads count before description resource) :
    ResourceAgrees reads count after description resource :=
  { agrees with
    methods := agrees.methods.imp fun _ _ => MethodAgrees.keep sound keeps
    locators := agrees.locators.imp fun _ _ => LocatorAgrees.keep keeps }

end Keep

/-! ## Repeated steps -/

section Repeated

variable {δ α : Type}

/--
Things that each hold one reference are loaded in order.  Each is made from its
description and from a number that its reference is read as.
-/
theorem loadEach_agree (sound : Sound reads known) {reference : δ → String}
    {make : δ → TypeId → α} {load : Version → List δ → Except LoadFault (Version × List α)}
    (none : ∀ version, load version [] = .ok (version, []))
    (step : ∀ version description rest, load version (description :: rest) = do
      let (version, type) ← resolveType version (reference description)
      let (version, others) ← load version rest
      return (version, make description type :: others))
    {named : List ApiType} {descriptions : List δ} {version after : Version} {things : List α}
    (arena : Arena version named)
    (grounded : ∀ description ∈ descriptions,
      known (named.map (·.name)) (reference description))
    (loaded : load version descriptions = .ok (after, things)) :
    Grows named version after ∧
      List.Forall₂ (fun description thing => ∃ type, thing = make description type ∧
        reads named.length after (reference description) type) descriptions things := by
  induction descriptions generalizing version things with
  | nil =>
      rw [none] at loaded
      simp only [Except.ok.injEq, Prod.mk.injEq] at loaded
      obtain ⟨rfl, rfl⟩ := loaded
      exact ⟨.refl arena, .nil⟩
  | cons description rest ih =>
      rw [step, bind_eq_ok_iff] at loaded
      obtain ⟨⟨middle, type⟩, resolved, loaded⟩ := loaded
      obtain ⟨⟨last, others⟩, loadedRest, result⟩ := bind_eq_ok_iff.1 loaded
      simp only [pure_eq_ok_iff, Prod.mk.injEq] at result
      obtain ⟨rfl, rfl⟩ := result
      have resolvedType := mapError_eq_ok_iff.1 resolved
      have first := (arena.resolve resolvedType).1
      obtain ⟨further, agree⟩ :=
        ih first.arena (fun other member => grounded other (List.mem_cons_of_mem _ member))
          loadedRest
      have reading := sound.resolve arena (grounded description List.mem_cons_self) resolvedType
      exact ⟨first.trans further,
        .cons ⟨type, rfl, sound.keep further.keeps reading⟩ agree⟩

/-- Things are declared one after the other, and no name twice. -/
theorem declareEach (declare : Version → δ → Except LoadFault Version) (name : δ → Name)
    (names : Version → List Name) (add : Version → δ → Version)
    (step : ∀ {version after description}, declare version description = .ok after ↔
      name description ∉ names version ∧ after = add version description)
    (grown : ∀ version description,
      names (add version description) = names version ++ [name description])
    {descriptions : List δ} {version after : Version} (distinct : (names version).Nodup)
    (declared : descriptions.foldlM declare version = .ok after) :
    after = descriptions.foldl add version ∧ (names after).Nodup := by
  induction descriptions generalizing version with
  | nil =>
      simp only [List.foldlM_nil, pure_eq_ok_iff] at declared
      subst declared
      exact ⟨rfl, distinct⟩
  | cons description rest ih =>
      rw [List.foldlM_cons, bind_eq_ok_iff] at declared
      obtain ⟨middle, first, others⟩ := declared
      obtain ⟨fresh, rfl⟩ := step.1 first
      have distinctMiddle : (names (add version description)).Nodup := by
        rw [grown]
        simpa using List.Nodup.concat fresh distinct
      exact ih distinctMiddle others

end Repeated

end VersionedApi.Description
