import VersionedApi.Proofs.Description.Outcome
import VersionedApi.Proofs.Model.Lookup
import VersionedApi.Proofs.Model.Unfolding

/-!
# Types while they are loaded

While a version is loaded its types are the named ones, built in or declared,
and behind them the lists and maps that references asked for.  Named types are
replaced one by one and lists and maps appended, but a number that was handed
out keeps its meaning.
-/

namespace VersionedApi.Model.Version

variable {version : Version}

/-- After a type is appended the types are the old ones and that one. -/
theorem type?_addType_cases {type found : ApiType} {id : TypeId}
    (present : (version.addType type).1.type? id = some found) :
    version.type? id = some found ∨ id = ⟨version.types.length⟩ ∧ found = type := by
  rw [type?, addType, List.getElem?_append] at present
  split at present
  · exact .inl present
  · obtain ⟨bound, same⟩ := List.getElem?_eq_some_iff.1 present
    rw [List.length_singleton] at bound
    refine .inr ⟨congrArg TypeId.mk (by omega), ?_⟩
    simpa using same.symm

/-- After a type is replaced the types are the others and the new one. -/
theorem type?_setType_cases {type found : ApiType} {id other : TypeId}
    (present : (version.setType id type).type? other = some found) :
    version.type? other = some found ∧ other ≠ id ∨ other = id ∧ found = type := by
  rw [type?, setType, List.getElem?_set] at present
  split at present
  · next same =>
      split at present
      · exact .inr ⟨congrArg TypeId.mk same.symm, (Option.some.inj present).symm⟩
      · cases present
  · next different =>
      exact .inl ⟨present, fun same => different (congrArg TypeId.index same).symm⟩

end VersionedApi.Model.Version

namespace VersionedApi.Description

open VersionedApi.Model

/-! ## What every step keeps -/

/-- Names stay, and so does what a list or map holds. -/
structure Keeps (before after : Version) : Prop where
  type : ∀ {id type}, before.type? id = some type → ∃ later, after.type? id = some later ∧
    later.name = type.name ∧ (type.kind.element?.isSome → later.kind = type.kind)
  resource : ∀ {id resource}, before.resource? id = some resource →
    ∃ later, after.resource? id = some later ∧ later.name = resource.name

namespace Keeps

theorem refl (version : Version) : Keeps version version where
  type found := ⟨_, found, rfl, fun _ => rfl⟩
  resource found := ⟨_, found, rfl⟩

theorem trans {first second third : Version} (early : Keeps first second)
    (late : Keeps second third) : Keeps first third where
  type found := by
    obtain ⟨middle, foundMiddle, nameMiddle, kindMiddle⟩ := early.type found
    obtain ⟨last, foundLast, nameLast, kindLast⟩ := late.type foundMiddle
    refine ⟨last, foundLast, nameLast.trans nameMiddle, fun holds => ?_⟩
    have same := kindMiddle holds
    exact (kindLast (same ▸ holds)).trans same
  resource found := by
    obtain ⟨middle, foundMiddle, nameMiddle⟩ := early.resource found
    obtain ⟨last, foundLast, nameLast⟩ := late.resource foundMiddle
    exact ⟨last, foundLast, nameLast.trans nameMiddle⟩

/-- Appending types and resources leaves those alone that are there. -/
theorem of_extended {before after : Version} (types : before.types <+: after.types)
    (resources : before.resources <+: after.resources) : Keeps before after where
  type {id type} found := by
    obtain ⟨more, same⟩ := types
    have bound := (List.getElem?_eq_some_iff.1 found).1
    refine ⟨type, ?_, rfl, fun _ => rfl⟩
    simpa [Version.type?, ← same, List.getElem?_append_left bound] using found
  resource {id resource} found := by
    obtain ⟨more, same⟩ := resources
    have bound := (List.getElem?_eq_some_iff.1 found).1
    refine ⟨resource, ?_, rfl⟩
    simpa [Version.resource?, ← same, List.getElem?_append_left bound] using found

/-- A type that is neither list nor map gives way to another of its name. -/
theorem setType {version : Version} {id : TypeId} {old type : ApiType}
    (present : version.type? id = some old) (plain : old.kind.element? = none)
    (name : type.name = old.name) : Keeps version (version.setType id type) where
  type {other found} foundOther := by
    by_cases same : id.index = other.index
    · have bound := (List.getElem?_eq_some_iff.1 present).1
      have equal : found = old := by
        rw [Version.type?, ← same] at foundOther
        exact Option.some.inj (foundOther.symm.trans present)
      subst equal
      refine ⟨type, ?_, name, fun holds => ?_⟩
      · rw [Version.type?, Version.setType, ← same]
        exact List.getElem?_set_self bound
      · rw [plain] at holds; cases holds
    · refine ⟨found, ?_, rfl, fun _ => rfl⟩
      simpa [Version.setType, Version.type?, List.getElem?_set_ne same] using foundOther
  resource found := ⟨_, found, rfl⟩

/-- Changing a resource without its name keeps everything. -/
theorem modifyResource (version : Version) (id : ResourceId) {change : Resource → Resource}
    (name : ∀ resource, (change resource).name = resource.name) :
    Keeps version (version.modifyResource id change) where
  type found := ⟨_, found, rfl, fun _ => rfl⟩
  resource {other resource} found := by
    rw [Version.resource?] at found
    simp only [Version.modifyResource, Version.resource?, List.getElem?_modify, found]
    by_cases same : id.index = other.index
    · exact ⟨change resource, by simp [same], name resource⟩
    · exact ⟨resource, by simp [same], rfl⟩

end Keeps

/-! ## Named types and the lists and maps behind them -/

/-- The named types lead, and all that follow are lists and maps of types before them. -/
structure Arena (version : Version) (named : List ApiType) : Prop where
  leads : named <+: version.types
  plain : ∀ type ∈ named, type.kind.element? = none
  derived : ∀ id type, version.type? id = some type → named.length ≤ id.index →
    type.kind.element?.isSome
  ordered : version.Ordered

/-- A version grows by lists and maps behind its types, and nothing else changes. -/
structure Grows (named : List ApiType) (before after : Version) : Prop where
  arena : Arena after named
  types : before.types <+: after.types
  rest : after = { before with types := after.types }

namespace Grows

variable {named : List ApiType} {first second third : Version}

theorem refl (arena : Arena first named) : Grows named first first :=
  ⟨arena, List.prefix_refl _, rfl⟩

theorem trans (early : Grows named first second) (late : Grows named second third) :
    Grows named first third where
  arena := late.arena
  types := early.types.trans late.types
  rest := by rw [late.rest, early.rest]

theorem resources_eq (grows : Grows named first second) : second.resources = first.resources := by
  rw [grows.rest]

theorem keeps (grows : Grows named first second) : Keeps first second := by
  refine Keeps.of_extended grows.types ⟨[], ?_⟩
  rw [List.append_nil, grows.resources_eq]

end Grows

namespace Arena

variable {version after : Version} {named : List ApiType}

/-- A named type is where it is among the named ones. -/
theorem type?_of_lt (arena : Arena version named) {id : TypeId} (bound : id.index < named.length) :
    version.type? id = named[id.index]? := by
  obtain ⟨more, same⟩ := arena.leads
  rw [Version.type?, ← same, List.getElem?_append_left bound]

/-- A name that a named type has leads to a named type, whatever lists and maps there are. -/
theorem findType?_named (arena : Arena version named) {name : Name} {id : TypeId}
    (member : name ∈ named.map (·.name)) (found : version.findType? name = some id) :
    id.index < named.length ∧ ∃ type, version.type? id = some type ∧ type.name = name := by
  obtain ⟨type, inNamed, rfl⟩ := List.mem_map.1 member
  obtain ⟨place, bound, atPlace⟩ := List.mem_iff_getElem.1 inNamed
  obtain ⟨there, earliest⟩ := Version.findType?_eq_some_iff.1 found
  -- The first match does not come after the one at `place`.
  have same : version.type? ⟨place⟩ = some type := by
    rw [arena.type?_of_lt bound, ← atPlace]
    exact List.getElem?_eq_getElem bound
  exact ⟨Nat.lt_of_le_of_lt (earliest ⟨place⟩ type same rfl) bound, there⟩

/-- A list or map of a type in use may be put behind all types. -/
theorem addType (arena : Arena version named) {element : TypeId} {type : ApiType}
    (holds : type.kind.element? = some element)
    (inUse : element.index < version.types.length) :
    Grows named version (version.addType type).1 := by
  refine ⟨⟨arena.leads.trans (List.prefix_append _ _), arena.plain, ?_, ?_⟩,
    List.prefix_append _ _, rfl⟩
  · intro id found present behind
    rcases Version.type?_addType_cases present with old | ⟨-, rfl⟩
    · exact arena.derived id found old behind
    · rw [holds]; rfl
  · intro id found inner present inside
    rcases Version.type?_addType_cases present with old | ⟨rfl, rfl⟩
    · exact arena.ordered id found inner old inside
    · rw [holds, Option.some.injEq] at inside
      rw [← inside]
      exact inUse

/-- A list or map of a type in use is there already, or is put behind all types. -/
theorem intern (arena : Arena version named) {element id : TypeId} {kind : TypeKind}
    {suffix : String} (holds : kind.element? = some element)
    (inUse : element.index < version.types.length)
    (interned : version.intern element kind suffix = (after, id)) :
    Grows named version after ∧ ∃ type, after.type? id = some type ∧ type.kind = kind := by
  unfold Version.intern at interned
  cases search : version.findKind? kind with
  | some present =>
      simp only [search, Prod.mk.injEq] at interned
      obtain ⟨rfl, rfl⟩ := interned
      exact ⟨.refl arena, (Version.findKind?_eq_some_iff.1 search).1⟩
  | none =>
      simp only [search] at interned
      obtain ⟨rfl, rfl⟩ := Prod.mk.injEq .. ▸ interned
      exact ⟨arena.addType holds inUse, _, version.type?_addType _, rfl⟩

/-- A named type gives way to another one that is neither list nor map. -/
theorem setType {front rest : List ApiType} {old type : ApiType}
    (arena : Arena version (front ++ old :: rest)) (plain : type.kind.element? = none) :
    Arena (version.setType ⟨front.length⟩ type) (front ++ type :: rest) := by
  refine ⟨?_, ?_, ?_, ?_⟩
  · obtain ⟨more, same⟩ := arena.leads
    refine ⟨more, ?_⟩
    simp [Version.setType, ← same]
  · intro other member
    rcases List.mem_append.1 member with early | late
    · exact arena.plain other (List.mem_append_left _ early)
    · rcases List.mem_cons.1 late with rfl | late
      · exact plain
      · exact arena.plain other (List.mem_append_right _ (List.mem_cons_of_mem _ late))
  · intro id found present behind
    rcases Version.type?_setType_cases present with ⟨kept, -⟩ | ⟨rfl, -⟩
    · exact arena.derived id found kept (by simpa using behind)
    · simp only [List.length_append, List.length_cons] at behind
      omega
  · intro id found inner present inside
    rcases Version.type?_setType_cases present with ⟨kept, -⟩ | ⟨-, rfl⟩
    · exact arena.ordered id found inner kept inside
    · rw [plain] at inside; cases inside

/-- Resolving a reference adds the lists and maps that it asks for, and leads to a type in use. -/
theorem resolve (arena : Arena version named) {reference : TypeReference} {id : TypeId}
    (resolved : reference.resolve version = .ok (after, id)) :
    Grows named version after ∧ id.index < after.types.length := by
  induction reference generalizing after id with
  | named text =>
      unfold TypeReference.resolve at resolved
      cases search : version.findType? (Name.ofText (String.ofList text)) with
      | none => simp [search] at resolved
      | some present =>
          simp only [search, Except.ok.injEq, Prod.mk.injEq] at resolved
          obtain ⟨rfl, rfl⟩ := resolved
          obtain ⟨⟨type, found, -⟩, -⟩ := Version.findType?_eq_some_iff.1 search
          exact ⟨.refl arena, (List.getElem?_eq_some_iff.1 found).1⟩
  | list element ih =>
      obtain ⟨⟨middle, inner⟩, resolvedInner, listed⟩ := map_eq_ok_iff.1 resolved
      obtain ⟨grows, inUse⟩ := ih resolvedInner
      obtain ⟨further, type, found, -⟩ := grows.arena.intern rfl inUse listed
      exact ⟨grows.trans further, (List.getElem?_eq_some_iff.1 found).1⟩
  | map element ih =>
      obtain ⟨⟨middle, inner⟩, resolvedInner, mapped⟩ := map_eq_ok_iff.1 resolved
      obtain ⟨grows, inUse⟩ := ih resolvedInner
      obtain ⟨further, type, found, -⟩ := grows.arena.intern rfl inUse mapped
      exact ⟨grows.trans further, (List.getElem?_eq_some_iff.1 found).1⟩

end Arena

end VersionedApi.Description
