import VersionedApi.Proofs.Description.Scope

/-!
# Interned lists and maps

Each list and map that a reference asks for is found again by its kind, or added.
So while references are resolved the lists and maps that are there are those that
were asked for, each once, and a reference goes on meaning what it meant.
-/

namespace VersionedApi.Description

open VersionedApi.Model

/-! ## What references mean -/

/-- The lists and maps in a reference, from the inside out. -/
def TypeReference.parts : TypeReference → List TypeReference
  | named _ => []
  | list element => element.parts ++ [list element]
  | map element => element.parts ++ [map element]

/--
A reference means a number: its name the first type of that name, and each mark a
list or map of what is meant by the rest.
-/
inductive Means (version : Version) : TypeReference → TypeId → Prop where
  | named {text : List Char} {id : TypeId}
      (found : version.findType? (Name.ofText (String.ofList text)) = some id) :
      Means version (.named text) id
  | list {element : TypeReference} {inner id : TypeId} {type : ApiType}
      (rest : Means version element inner) (found : version.type? id = some type)
      (kind : type.kind = .list inner) : Means version (.list element) id
  | map {element : TypeReference} {inner id : TypeId} {type : ApiType}
      (rest : Means version element inner) (found : version.type? id = some type)
      (kind : type.kind = .map inner) : Means version (.map element) id

/-- The first type of a name goes on being the first. -/
theorem Keeps.findType? {before after : Version} (keeps : Keeps before after) {name : Name}
    {id : TypeId} (found : before.findType? name = some id) : after.findType? name = some id := by
  obtain ⟨⟨type, present, same⟩, least⟩ := Version.findType?_eq_some_iff.1 found
  obtain ⟨later, there, name, -⟩ := keeps.type present
  refine Version.findType?_eq_some_iff.2 ⟨⟨later, there, name.trans same⟩, ?_⟩
  intro other twin thereTwin sameTwin
  by_contra late
  -- What comes earlier was there before, with the same name.
  have early : other.index < before.types.length :=
    Nat.lt_trans (Nat.lt_of_not_le late) (List.getElem?_eq_some_iff.1 present).1
  have old : before.type? other = some before.types[other.index] := List.getElem?_eq_getElem early
  obtain ⟨kept, thereKept, nameKept, -⟩ := keeps.type old
  obtain rfl := Option.some.inj (thereTwin.symm.trans thereKept)
  exact late (least other _ old (nameKept.symm.trans sameTwin))

namespace Means

variable {before after version : Version} {reference : TypeReference} {id other : TypeId}

/-- A reference goes on meaning a number, whatever is loaded later. -/
theorem keep (keeps : Keeps before after) (means : Means before reference id) :
    Means after reference id := by
  induction means with
  | named found => exact .named (keeps.findType? found)
  | list rest found kind ih =>
      obtain ⟨later, there, -, same⟩ := keeps.type found
      exact .list ih there ((same (by rw [kind]; rfl)).trans kind)
  | map rest found kind ih =>
      obtain ⟨later, there, -, same⟩ := keeps.type found
      exact .map ih there ((same (by rw [kind]; rfl)).trans kind)

/-- What a reference means depends on the types only. -/
theorem of_types (types : after.types = before.types) (means : Means before reference id) :
    Means after reference id := by
  have same (id : TypeId) : after.type? id = before.type? id := by
    rw [Version.type?, Version.type?, types]
  induction means with
  | named found =>
      refine .named ?_
      rw [Version.findType?, types]
      exact found
  | list rest found kind ih => exact .list ih ((same _).trans found) kind
  | map rest found kind ih => exact .map ih ((same _).trans found) kind

/-- A list or map in a reference means a list or map. -/
theorem exists_holder {part : TypeReference} (member : part ∈ reference.parts)
    (means : Means version part id) :
    ∃ type, version.type? id = some type ∧ type.kind.element?.isSome := by
  cases means with
  | named found =>
      induction reference with
      | named => cases member
      | list element ih => exact ih (by simpa [TypeReference.parts] using member)
      | map element ih => exact ih (by simpa [TypeReference.parts] using member)
  | list rest found kind => exact ⟨_, found, by rw [kind]; rfl⟩
  | map rest found kind => exact ⟨_, found, by rw [kind]; rfl⟩

end Means

/-! ## Lists and maps that were asked for -/

/--
The named types lead and are neither lists nor maps.  No two lists or maps are of
one kind, and they are those that some references ask for.
-/
structure Interned (names : List Name) (asked : List TypeReference) (version : Version) :
    Prop where
  leads : names <+: version.typeNames
  plain : ∀ id type, version.type? id = some type → id.index < names.length →
    type.kind.element? = none
  single : ∀ id other type twin, version.type? id = some type →
    version.type? other = some twin → type.kind.element?.isSome → twin.kind = type.kind →
      other = id
  wanted : ∀ id type, version.type? id = some type → type.kind.element?.isSome →
    ∃ part ∈ asked, Means version part id
  meant : ∀ part ∈ asked, ∃ id, Means version part id

namespace Interned

variable {names : List Name} {asked : List TypeReference} {version after : Version}

theorem length_le (interned : Interned names asked version) :
    names.length ≤ version.types.length := by
  have shorter := interned.leads.length_le
  rwa [Version.typeNames, List.length_map] at shorter

theorem of_types (interned : Interned names asked version) (types : after.types = version.types) :
    Interned names asked after := by
  have same (id : TypeId) : after.type? id = version.type? id := by
    rw [Version.type?, Version.type?, types]
  constructor
  · rw [Version.typeNames, types]
    exact interned.leads
  · intro id type found
    exact interned.plain id type ((same id).symm.trans found)
  · intro id other type twin found foundTwin
    exact interned.single id other type twin ((same id).symm.trans found)
      ((same other).symm.trans foundTwin)
  · intro id type found holds
    obtain ⟨part, member, means⟩ := interned.wanted id type ((same id).symm.trans found) holds
    exact ⟨part, member, means.of_types types⟩
  · intro part member
    obtain ⟨id, means⟩ := interned.meant part member
    exact ⟨id, means.of_types types⟩

/-- A list or map that is there already is asked for once more. -/
theorem again (interned : Interned names asked version) {part : TypeReference} {id : TypeId}
    (means : Means version part id) : Interned names (asked ++ [part]) version := by
  refine { interned with wanted := ?_, meant := ?_ }
  · intro other type found holds
    obtain ⟨old, member, meansOld⟩ := interned.wanted other type found holds
    exact ⟨old, List.mem_append_left _ member, meansOld⟩
  · intro other member
    rcases List.mem_append.1 member with old | new
    · exact interned.meant other old
    · obtain rfl := List.mem_singleton.1 new
      exact ⟨id, means⟩

/-- A list or map of a kind that is not there yet is added for a reference that asks for it. -/
theorem addType (interned : Interned names asked version) {type : ApiType}
    {part : TypeReference} (fresh : ∀ old ∈ version.types, old.kind ≠ type.kind)
    (holds : type.kind.element?.isSome)
    (means : Means (version.addType type).1 part ⟨version.types.length⟩) :
    Interned names (asked ++ [part]) (version.addType type).1 := by
  have keeps : Keeps version (version.addType type).1 :=
    .of_extended (List.prefix_append _ _) (List.prefix_refl _)
  constructor
  · refine interned.leads.trans ⟨[type.name], ?_⟩
    simp [Version.typeNames, Version.addType]
  · intro id found present early
    rcases Version.type?_addType_cases present with old | ⟨rfl, -⟩
    · exact interned.plain id found old early
    · exact absurd interned.length_le (Nat.not_le_of_lt early)
  · intro id other found twin present presentTwin isHolder same
    rcases Version.type?_addType_cases present with old | ⟨rfl, rfl⟩
    · rcases Version.type?_addType_cases presentTwin with oldTwin | ⟨-, rfl⟩
      · exact interned.single id other found twin old oldTwin isHolder same
      · exact absurd same.symm (fresh found (List.mem_of_getElem? old))
    · rcases Version.type?_addType_cases presentTwin with oldTwin | ⟨rfl, -⟩
      · exact absurd same (fresh twin (List.mem_of_getElem? oldTwin))
      · rfl
  · intro id found present isHolder
    rcases Version.type?_addType_cases present with old | ⟨rfl, -⟩
    · obtain ⟨other, member, meansOther⟩ := interned.wanted id found old isHolder
      exact ⟨other, List.mem_append_left _ member, meansOther.keep keeps⟩
    · exact ⟨part, List.mem_append_right _ List.mem_cons_self, means⟩
  · intro other member
    rcases List.mem_append.1 member with old | new
    · obtain ⟨id, meansOther⟩ := interned.meant other old
      exact ⟨id, meansOther.keep keeps⟩
    · obtain rfl := List.mem_singleton.1 new
      exact ⟨_, means⟩

/--
Interning a kind makes a reference mean something, as soon as a type of that kind is
all that it takes to mean it.
-/
theorem intern (interned : Interned names asked version) {inner part : TypeReference}
    {element id : TypeId} {kind : TypeKind} {suffix : String}
    (means : Means version inner element) (holds : kind.element? = some element)
    (wraps : ∀ {later : Version} {id : TypeId} {type : ApiType}, Means later inner element →
      later.type? id = some type → type.kind = kind → Means later part id)
    (found : version.intern element kind suffix = (after, id)) :
    Interned names (asked ++ [part]) after ∧ Means after part id := by
  unfold Version.intern at found
  cases search : version.findKind? kind with
  | some old =>
      simp only [search, Prod.mk.injEq] at found
      obtain ⟨rfl, rfl⟩ := found
      obtain ⟨⟨type, present, same⟩, -⟩ := Version.findKind?_eq_some_iff.1 search
      have there := wraps means present same
      exact ⟨interned.again there, there⟩
  | none =>
      simp only [search] at found
      obtain ⟨rfl, rfl⟩ := Prod.mk.injEq .. ▸ found
      have keeps : Keeps version
          (version.addType ⟨version.derivedName element suffix, "", kind⟩).1 :=
        .of_extended (List.prefix_append _ _) (List.prefix_refl _)
      have there := wraps (means.keep keeps) (version.type?_addType _) rfl
      refine ⟨interned.addType ?_ ?_ there, there⟩
      · intro old member same
        have missing := List.findIdx?_eq_none_iff.1 (Option.map_eq_none_iff.1 search) old member
        simp [same] at missing
      · exact Option.isSome_of_mem holds

/-- Resolving a reference asks for its lists and maps, and leads to what it means. -/
theorem resolve (interned : Interned names asked version) {reference : TypeReference}
    {id : TypeId} (resolved : reference.resolve version = .ok (after, id)) :
    Interned names (asked ++ reference.parts) after ∧ Means after reference id := by
  induction reference generalizing after id with
  | named text =>
      unfold TypeReference.resolve at resolved
      cases search : version.findType? (Name.ofText (String.ofList text)) with
      | none => simp [search] at resolved
      | some present =>
          simp only [search, Except.ok.injEq, Prod.mk.injEq] at resolved
          obtain ⟨rfl, rfl⟩ := resolved
          rw [TypeReference.parts, List.append_nil]
          exact ⟨interned, .named search⟩
  | list element ih =>
      obtain ⟨⟨middle, inner⟩, resolvedInner, listed⟩ := map_eq_ok_iff.1 resolved
      obtain ⟨internedInner, means⟩ := ih resolvedInner
      rw [TypeReference.parts, ← List.append_assoc]
      exact internedInner.intern means rfl .list listed
  | map element ih =>
      obtain ⟨⟨middle, inner⟩, resolvedInner, mapped⟩ := map_eq_ok_iff.1 resolved
      obtain ⟨internedInner, means⟩ := ih resolvedInner
      rw [TypeReference.parts, ← List.append_assoc]
      exact internedInner.intern means rfl .map mapped

/-- A named type is defined, which asks for nothing. -/
theorem setType (interned : Interned names asked version) {index : Nat} {type : ApiType}
    (place : names[index]? = some type.name) (plain : type.kind.element? = none) :
    Interned names asked (version.setType ⟨index⟩ type) := by
  obtain ⟨early, -⟩ := List.getElem?_eq_some_iff.1 place
  obtain ⟨old, present, name⟩ := Version.exists_type?_of_leads interned.leads place
  have keeps : Keeps version (version.setType ⟨index⟩ type) :=
    .setType present (interned.plain _ old present early) name.symm
  -- A list or map stands elsewhere, where nothing changes.
  have elsewhere {id : TypeId} {found : ApiType}
      (there : (version.setType ⟨index⟩ type).type? id = some found)
      (holds : found.kind.element?.isSome) : version.type? id = some found := by
    rcases Version.type?_setType_cases there with ⟨kept, -⟩ | ⟨-, rfl⟩
    · exact kept
    · rw [plain] at holds
      cases holds
  constructor
  · rw [Version.typeNames_setType present name.symm]
    exact interned.leads
  · intro id found there within
    rcases Version.type?_setType_cases there with ⟨kept, -⟩ | ⟨-, rfl⟩
    · exact interned.plain id found kept within
    · exact plain
  · intro id other found twin there thereTwin holds same
    exact interned.single id other found twin (elsewhere there holds)
      (elsewhere thereTwin (same ▸ holds)) holds same
  · intro id found there holds
    obtain ⟨part, member, means⟩ := interned.wanted id found (elsewhere there holds) holds
    exact ⟨part, member, means.keep keeps⟩
  · intro part member
    obtain ⟨id, means⟩ := interned.meant part member
    exact ⟨id, means.keep keeps⟩

/-- No reference means two numbers. -/
theorem unique (interned : Interned names asked version) {reference : TypeReference}
    {id other : TypeId} (means : Means version reference id)
    (meansOther : Means version reference other) : other = id := by
  induction means generalizing other with
  | named found =>
      cases meansOther with
      | named foundOther => exact Option.some.inj (foundOther.symm.trans found)
  | list rest found kind ih =>
      cases meansOther with
      | list restOther foundOther kindOther =>
          obtain rfl := ih restOther
          exact interned.single _ _ _ _ found foundOther (by rw [kind]; rfl)
            (kindOther.trans kind.symm)
  | map rest found kind ih =>
      cases meansOther with
      | map restOther foundOther kindOther =>
          obtain rfl := ih restOther
          exact interned.single _ _ _ _ found foundOther (by rw [kind]; rfl)
            (kindOther.trans kind.symm)

end Interned

end VersionedApi.Description
