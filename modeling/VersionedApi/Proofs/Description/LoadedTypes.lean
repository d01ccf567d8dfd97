import VersionedApi.Proofs.Description.Soundness

/-!
# Loaded types

The types of a version are declared by placeholders, which give way to the
described types one by one while lists and maps gather behind them.
-/

namespace VersionedApi.Description

open VersionedApi.Model

variable {reads : Reading} {known : List Name → String → Prop}

/-! ## Declaring -/

/-- The type that stands for a declared one until it is defined. -/
def placeholder (description : TypeDescription) : ApiType :=
  ⟨Name.ofText description.name, "", .enum []⟩

theorem findType?_isSome_iff {version : Version} {name : Name} :
    (version.findType? name).isSome ↔ name ∈ version.types.map (·.name) := by
  simp [Version.findType?, List.findIdx?_isSome]

theorem declareType_eq_ok_iff {version after : Version} {description : TypeDescription} :
    declareType version description = .ok after ↔
      Name.ofText description.name ∉ version.types.map (·.name) ∧
        after = { version with types := version.types ++ [placeholder description] } := by
  unfold declareType
  by_cases taken : Name.ofText description.name ∈ version.types.map (·.name)
  · simp only [findType?_isSome_iff.2 taken, if_true, taken, not_true, false_and, iff_false]
    exact nofun
  · rw [if_neg (findType?_isSome_iff.not.2 taken)]
    simp only [taken, not_false_eq_true, true_and, Except.ok.injEq]
    exact eq_comm

/-- Declaring types appends their placeholders, and no name is declared twice. -/
theorem declareTypes {descriptions : List TypeDescription} {version after : Version}
    (distinct : (version.types.map (·.name)).Nodup)
    (declared : descriptions.foldlM declareType version = .ok after) :
    after = { version with types := version.types ++ descriptions.map placeholder } ∧
      (after.types.map (·.name)).Nodup := by
  obtain ⟨rfl, distinctAfter⟩ :=
    declareEach declareType (Name.ofText ·.name) (·.types.map (·.name))
      (fun version description =>
        { version with types := version.types ++ [placeholder description] })
      declareType_eq_ok_iff (fun _ _ => by simp [placeholder]) distinct declared
  refine ⟨?_, distinctAfter⟩
  clear distinct declared distinctAfter
  induction descriptions generalizing version with
  | nil => simp
  | cons description rest ih => simp [ih]

/-! ## Defining -/

/-- The attributes of a struct agree with their descriptions. -/
theorem loadAttributes_agree (sound : Sound reads known) {named : List ApiType}
    {descriptions : List AttributeDescription} {version after : Version}
    {attributes : List Attribute} (arena : Arena version named)
    (grounded : ∀ description ∈ descriptions, known (named.map (·.name)) description.type)
    (loaded : loadAttributes version descriptions = .ok (after, attributes)) :
    Grows named version after ∧
      List.Forall₂ (AttributeAgrees reads named.length after) descriptions attributes := by
  obtain ⟨grows, agree⟩ :=
    loadEach_agree sound (fun _ => rfl) (fun _ _ _ => rfl) arena grounded loaded
  refine ⟨grows, agree.imp ?_⟩
  rintro description attr ⟨type, rfl, reading⟩
  exact ⟨rfl, rfl, reading⟩

/-- The kind of a type agrees with its description, and is neither list nor map. -/
theorem loadKind_agrees (sound : Sound reads known) {named : List ApiType}
    {description : TypeDescription} {version after : Version} {kind : TypeKind}
    (arena : Arena version named)
    (grounded : description.form ≠ .enum →
      ∀ attr ∈ description.attributes, known (named.map (·.name)) attr.type)
    (loaded : loadKind version description = .ok (after, kind)) :
    Grows named version after ∧ kind.element? = none ∧
      KindAgrees reads named.length after description kind := by
  unfold loadKind at loaded
  split at loaded
  · next form =>
      simp only [Except.ok.injEq, Prod.mk.injEq] at loaded
      obtain ⟨rfl, rfl⟩ := loaded
      have values : List.Forall₂ ValueAgrees description.values
          (description.values.map loadValue) := by
        rw [List.forall₂_map_right_iff, List.forall₂_same]
        exact fun value _ => ⟨rfl, rfl⟩
      exact ⟨.refl arena, rfl, .enum form values⟩
  · next form notEnum =>
      obtain ⟨⟨last, attributes⟩, loadedAttributes, result⟩ := bind_eq_ok_iff.1 loaded
      simp only [pure_eq_ok_iff, Prod.mk.injEq] at result
      obtain ⟨rfl, rfl⟩ := result
      obtain ⟨grows, agree⟩ :=
        loadAttributes_agree sound arena (grounded notEnum) loadedAttributes
      exact ⟨grows, rfl, .struct notEnum decide_eq_true_iff agree⟩

/-- Defining a declared type makes it agree with its description. -/
theorem defineType_agrees (sound : Sound reads known) {front rest : List ApiType}
    {old : ApiType} {description : TypeDescription} {version after : Version}
    (arena : Arena version (front ++ old :: rest))
    (name : old.name = Name.ofText description.name)
    (grounded : description.form ≠ .enum → ∀ attr ∈ description.attributes,
      known ((front ++ old :: rest).map (·.name)) attr.type)
    (defined : defineType version (description, front.length) = .ok after) :
    ∃ type, Arena after (front ++ type :: rest) ∧ Keeps version after ∧
      after = { version with types := after.types } ∧
      TypeAgrees reads (front ++ old :: rest).length after description type := by
  obtain ⟨⟨grown, kind⟩, loaded, result⟩ := bind_eq_ok_iff.1 defined
  obtain ⟨grows, plain, agrees⟩ := loadKind_agrees sound arena grounded loaded
  have present : grown.type? ⟨front.length⟩ = some old := by
    rw [grows.arena.type?_of_lt (by simp)]
    simp
  have oldPlain := arena.plain old (by simp)
  rw [pure_eq_ok_iff] at result
  subst result
  have keeps : Keeps grown
      (grown.setType ⟨front.length⟩ ⟨Name.ofText description.name, description.doc, kind⟩) :=
    Keeps.setType present oldPlain name.symm
  refine ⟨_, grows.arena.setType plain, grows.keeps.trans keeps, ?_, rfl, rfl,
    agrees.keep sound keeps⟩
  rw [grows.rest]
  rfl

/-- Defining all declared types makes them agree with their descriptions, one for one. -/
theorem defineTypes_agree (sound : Sound reads known) {front : List ApiType}
    {descriptions : List TypeDescription} {version after : Version}
    (arena : Arena version (front ++ descriptions.map placeholder))
    (grounded : ∀ description ∈ descriptions, description.form ≠ .enum →
      ∀ attr ∈ description.attributes,
        known ((front ++ descriptions.map placeholder).map (·.name)) attr.type)
    (defined : (descriptions.zipIdx front.length).foldlM defineType version = .ok after) :
    ∃ declared, Arena after (front ++ declared) ∧ Keeps version after ∧
      after = { version with types := after.types } ∧
      List.Forall₂ (TypeAgrees reads (front.length + descriptions.length) after)
        descriptions declared := by
  induction descriptions generalizing front version with
  | nil =>
      simp only [List.zipIdx_nil, List.foldlM_nil, pure_eq_ok_iff] at defined
      subst defined
      exact ⟨[], arena, .refl _, rfl, .nil⟩
  | cons description rest ih =>
      rw [List.zipIdx_cons, List.foldlM_cons, bind_eq_ok_iff] at defined
      obtain ⟨middle, definedFirst, definedRest⟩ := defined
      rw [List.map_cons] at arena grounded
      obtain ⟨type, arenaMiddle, keepsFirst, sameFirst, agrees⟩ :=
        defineType_agrees sound arena rfl (grounded description List.mem_cons_self) definedFirst
      -- The type defined last joins those in front of the placeholders that remain.
      have shifted : front ++ type :: rest.map placeholder =
          (front ++ [type]) ++ rest.map placeholder := by simp
      rw [shifted] at arenaMiddle
      have names : ((front ++ [type]) ++ rest.map placeholder).map (·.name) =
          (front ++ placeholder description :: rest.map placeholder).map (·.name) := by
        simp [agrees.name, placeholder]
      obtain ⟨declared, arenaAfter, keepsRest, sameRest, agreeRest⟩ :=
        ih arenaMiddle
          (fun other member => names ▸ grounded other (List.mem_cons_of_mem _ member))
          (by simpa using definedRest)
      refine ⟨type :: declared, by simpa using arenaAfter, keepsFirst.trans keepsRest, ?_, ?_⟩
      · rw [sameRest, sameFirst]
      · refine .cons ?_ ?_
        · simpa using agrees.keep sound keepsRest
        · simpa [Nat.add_assoc, Nat.add_comm 1] using agreeRest

/-! ## All types of a version -/

/-- Placeholders behind the built-in types start out without any list or map. -/
theorem arena_placeholders {version : Version} {descriptions : List TypeDescription}
    (types : version.types = ApiType.builtins ++ descriptions.map placeholder) :
    Arena version (ApiType.builtins ++ descriptions.map placeholder) := by
  have plain : ∀ type ∈ ApiType.builtins ++ descriptions.map placeholder,
      type.kind.element? = none := by
    intro type member
    rcases List.mem_append.1 member with builtin | declared
    · exact (by decide : ∀ type ∈ ApiType.builtins, type.kind.element? = none) type builtin
    · obtain ⟨description, -, rfl⟩ := List.mem_map.1 declared
      rfl
  refine ⟨types ▸ List.prefix_refl _, plain, ?_, ?_⟩
  · intro id type found behind
    have bound := (List.getElem?_eq_some_iff.1 found).1
    rw [types] at bound
    omega
  · intro id type element found holds
    have member := List.mem_of_getElem? found
    rw [types] at member
    rw [plain type member] at holds
    cases holds

/-- The types of a version agree with their descriptions, and no two have one name. -/
theorem loadTypes_agree (sound : Sound reads known) {version after : Version}
    {descriptions : List TypeDescription} (types : version.types = ApiType.builtins)
    (grounded : ∀ description ∈ descriptions, description.form ≠ .enum →
      ∀ attr ∈ description.attributes,
        known ((ApiType.builtins ++ descriptions.map placeholder).map (·.name)) attr.type)
    (loaded : loadTypes version descriptions = .ok after) :
    ∃ declared, Arena after (ApiType.builtins ++ declared) ∧
      after = { version with types := after.types } ∧
      List.Forall₂ (TypeAgrees reads (7 + descriptions.length) after) descriptions declared ∧
      ((ApiType.builtins ++ descriptions.map placeholder).map (·.name)).Nodup := by
  obtain ⟨middle, declaredAll, defined⟩ := bind_eq_ok_iff.1 loaded
  have distinct : (version.types.map (·.name)).Nodup := by
    rw [types]
    decide +kernel
  obtain ⟨same, distinctMiddle⟩ := declareTypes distinct declaredAll
  have layout : middle.types = ApiType.builtins ++ descriptions.map placeholder := by
    rw [same, types]
  rw [types] at defined
  obtain ⟨declared, arena, -, rest, agree⟩ :=
    defineTypes_agree sound (arena_placeholders layout) grounded defined
  refine ⟨declared, arena, ?_, agree, layout ▸ distinctMiddle⟩
  rw [rest, same]

end VersionedApi.Description
