import VersionedApi.Proofs.Description.LoadedResources
import VersionedApi.Proofs.Description.LoadedTypes

/-!
# Names in scope

Every list and map that a reference makes gets a name, and from then on later
references find it by that name.  So what a reference may name depends on the
references before it, and on nothing else: the names in scope are those of the
named types and those of the lists and maps that were asked for so far.
-/

namespace VersionedApi.Model

/-- What is put behind the name of its element in the name of a list or map. -/
def TypeKind.suffix : TypeKind → String
  | .list _ => "list"
  | .map _ => "map"
  | _ => ""

/-- Every list and map is named after the type that it holds. -/
def Version.Titled (version : Version) : Prop :=
  ∀ id type element, version.type? id = some type → type.kind.element? = some element →
    ∃ inner, version.type? element = some inner ∧
      type.name = Name.ofText (inner.name.snake ++ "_" ++ type.kind.suffix)

def Version.typeNames (version : Version) : List Name :=
  version.types.map (·.name)

/-- A type gives way to another one of its name. -/
theorem Version.typeNames_setType {version : Version} {id : TypeId} {old type : ApiType}
    (present : version.type? id = some old) (name : type.name = old.name) :
    (version.setType id type).typeNames = version.typeNames := by
  refine List.ext_getElem? fun place => ?_
  rw [Version.typeNames, Version.setType, List.map_set, List.getElem?_set]
  split
  · next here =>
      obtain ⟨bound, -⟩ := List.getElem?_eq_some_iff.1 present
      rw [if_pos (by simpa using bound), Version.typeNames, List.getElem?_map, ← here,
        show version.types[id.index]? = some old from present, name]
      rfl
  · rfl

/-- Where names lead among those of the types, each is the name of the type there. -/
theorem Version.exists_type?_of_leads {version : Version} {names : List Name}
    (leads : names <+: version.typeNames) {index : Nat} {name : Name}
    (place : names[index]? = some name) :
    ∃ type, version.type? ⟨index⟩ = some type ∧ type.name = name := by
  obtain ⟨early, -⟩ := List.getElem?_eq_some_iff.1 place
  obtain ⟨more, same⟩ := leads
  have there : version.typeNames[index]? = some name := by
    rw [← same, List.getElem?_append_left early, place]
  rw [Version.typeNames, List.getElem?_map] at there
  exact Option.map_eq_some_iff.1 there

end VersionedApi.Model

namespace VersionedApi.Description

open VersionedApi.Model

namespace TypeReference

def typeName : TypeReference → Name
  | named text => Name.ofText (String.ofList text)
  | list element => Name.ofText (element.typeName.snake ++ "_" ++ "list")
  | map element => Name.ofText (element.typeName.snake ++ "_" ++ "map")

/-- The names of the lists and maps that a reference asks for. -/
def derivedNames : TypeReference → List Name
  | named _ => []
  | list element => element.derivedNames ++ [(list element).typeName]
  | map element => element.derivedNames ++ [(map element).typeName]

end TypeReference

def derivedNames (text : String) : List Name :=
  (TypeReference.ofText text).derivedNames

/--
References that can be read one after the other: each ends at a name in scope
and brings the names of its lists and maps into it.
-/
def Readable (known : List Name) : List String → Prop
  | [] => True
  | text :: rest => baseName text ∈ known ∧ Readable (known ++ derivedNames text) rest

theorem readable_append {known : List Name} {early late : List String} :
    Readable known (early ++ late) ↔
      Readable known early ∧ Readable (known ++ early.flatMap derivedNames) late := by
  induction early generalizing known with
  | nil => simp [Readable]
  | cons text rest ih => simp [Readable, ih, and_assoc]

/-- References that end at names in scope can be read in any order. -/
theorem readable_of_forall {known : List Name} {texts : List String}
    (grounded : ∀ text ∈ texts, baseName text ∈ known) : Readable known texts := by
  induction texts generalizing known with
  | nil => trivial
  | cons text rest ih =>
      refine ⟨grounded text List.mem_cons_self, ih fun other member => ?_⟩
      exact List.mem_append_left _ (grounded other (List.mem_cons_of_mem _ member))

/-- A name that is read and not there from the beginning came into scope with a reference. -/
theorem Readable.mem_or_derived {known : List Name} {texts : List String}
    (readable : Readable known texts) {text : String} (member : text ∈ texts) :
    baseName text ∈ known ∨ ∃ other ∈ texts, baseName text ∈ derivedNames other := by
  induction texts generalizing known with
  | nil => cases member
  | cons first rest ih =>
      rcases List.mem_cons.1 member with rfl | later
      · exact .inl readable.1
      · rcases ih readable.2 later with inScope | ⟨other, among, derived⟩
        · rcases List.mem_append.1 inScope with before | derived
          · exact .inl before
          · exact .inr ⟨first, List.mem_cons_self, derived⟩
        · exact .inr ⟨other, List.mem_cons_of_mem _ among, derived⟩

/-! ## Versions and their scope -/

/--
A version has the named types first, and beside them types with the derived
names and no others.  Its resources have exactly the given names.
-/
structure Scope (named resources derived : List Name) (version : Version) : Prop where
  leads : named <+: version.typeNames
  types : ∀ name, name ∈ version.typeNames ↔ name ∈ named ++ derived
  resources : version.resources.map (·.name) = resources
  titled : version.Titled

namespace Scope

variable {named resources derived : List Name} {version after : Version}

theorem findType?_isSome (scope : Scope named resources derived version) {name : Name} :
    (version.findType? name).isSome ↔ name ∈ named ++ derived :=
  findType?_isSome_iff.trans (scope.types name)

theorem findResource?_isSome (scope : Scope named resources derived version) {name : Name} :
    (version.findResource? name).isSome ↔ name ∈ resources := by
  rw [findResource?_isSome_iff, scope.resources]

/-- A name that is there already adds nothing to the scope. -/
theorem of_known (scope : Scope named resources derived version) {name : Name}
    (known : name ∈ version.typeNames) :
    Scope named resources (derived ++ [name]) version := by
  refine { scope with types := fun other => ?_ }
  rw [scope.types, ← List.append_assoc, List.mem_append (t := [name]), List.mem_singleton]
  exact ⟨.inl, (·.elim id fun same => same ▸ (scope.types name).1 known)⟩

/-- A list or map that is named after its element brings its name into scope. -/
theorem addType (scope : Scope named resources derived version) {element : TypeId}
    {inner : ApiType} (type : ApiType) (present : version.type? element = some inner)
    (holds : type.kind.element? = some element)
    (title : type.name = Name.ofText (inner.name.snake ++ "_" ++ type.kind.suffix)) :
    Scope named resources (derived ++ [type.name]) (version.addType type).1 := by
  have names : (version.addType type).1.typeNames = version.typeNames ++ [type.name] := by
    simp [Version.typeNames, Version.addType]
  refine ⟨?_, ?_, scope.resources, ?_⟩
  · rw [names]
    exact scope.leads.trans (List.prefix_append _ _)
  · intro other
    rw [names, List.mem_append, scope.types, ← List.append_assoc, ← List.mem_append]
  · intro id found held foundAt heldBy
    rcases Version.type?_addType_cases foundAt with old | ⟨rfl, rfl⟩
    · obtain ⟨other, there, title⟩ := scope.titled id found held old heldBy
      exact ⟨other, Version.type?_addType_of_type? there, title⟩
    · obtain rfl := Option.some.inj (holds.symm.trans heldBy)
      exact ⟨inner, Version.type?_addType_of_type? present, title⟩

/-- A list or map of a type has a name that comes into scope with it. -/
theorem intern (scope : Scope named resources derived version) {element id : TypeId}
    {inner : ApiType} {kind : TypeKind} {name : Name}
    (present : version.type? element = some inner) (holds : kind.element? = some element)
    (title : name = Name.ofText (inner.name.snake ++ "_" ++ kind.suffix))
    (interned : version.intern element kind kind.suffix = (after, id)) :
    Scope named resources (derived ++ [name]) after ∧
      ∃ type, after.type? id = some type ∧ type.name = name := by
  unfold Version.intern at interned
  cases search : version.findKind? kind with
  | some old =>
      simp only [search, Prod.mk.injEq] at interned
      obtain ⟨rfl, rfl⟩ := interned
      obtain ⟨⟨type, found, same⟩, -⟩ := Version.findKind?_eq_some_iff.1 search
      obtain ⟨held, there, oldTitle⟩ := scope.titled _ _ element found (by rw [same, holds])
      obtain rfl := Option.some.inj (present.symm.trans there)
      rw [same, ← title] at oldTitle
      have known : type.name ∈ version.typeNames :=
        List.mem_map_of_mem (List.mem_of_getElem? found)
      rw [oldTitle] at known
      exact ⟨scope.of_known known, type, found, oldTitle⟩
  | none =>
      have derivedTitle : version.derivedName element kind.suffix = name := by
        rw [Version.derivedName, present, title]
        rfl
      simp only [search, derivedTitle] at interned
      have grown := scope.addType ⟨name, "", kind⟩ present holds title
      have last := version.type?_addType ⟨name, "", kind⟩
      rw [interned] at grown last
      exact ⟨grown, _, last, rfl⟩

/-- A reference can be resolved if it ends at a name in scope. -/
theorem resolve_ok_iff (scope : Scope named resources derived version)
    (reference : TypeReference) :
    (∃ result, reference.resolve version = .ok result) ↔
      Name.ofText (String.ofList reference.base) ∈ named ++ derived := by
  induction reference with
  | named text =>
      rw [TypeReference.base, ← scope.findType?_isSome]
      unfold TypeReference.resolve
      cases version.findType? (Name.ofText (String.ofList text)) with
      | none => simp
      | some id => simp
  | list element ih =>
      rw [TypeReference.base, ← ih, TypeReference.resolve]
      exact exists_map_eq_ok_iff
  | map element ih =>
      rw [TypeReference.base, ← ih, TypeReference.resolve]
      exact exists_map_eq_ok_iff

/-- Resolving a reference brings the names of its lists and maps into scope. -/
theorem resolve (scope : Scope named resources derived version) {reference : TypeReference}
    {id : TypeId} (resolved : reference.resolve version = .ok (after, id)) :
    Scope named resources (derived ++ reference.derivedNames) after ∧
      ∃ type, after.type? id = some type ∧ type.name = reference.typeName := by
  induction reference generalizing after id with
  | named text =>
      unfold TypeReference.resolve at resolved
      cases search : version.findType? (Name.ofText (String.ofList text)) with
      | none => simp [search] at resolved
      | some present =>
          simp only [search, Except.ok.injEq, Prod.mk.injEq] at resolved
          obtain ⟨rfl, rfl⟩ := resolved
          rw [TypeReference.derivedNames, List.append_nil]
          exact ⟨scope, (Version.findType?_eq_some_iff.1 search).1⟩
  | list element ih =>
      obtain ⟨⟨middle, inner⟩, resolvedInner, listed⟩ := map_eq_ok_iff.1 resolved
      obtain ⟨scopeMiddle, held, present, name⟩ := ih resolvedInner
      have title : (TypeReference.list element).typeName =
          Name.ofText (held.name.snake ++ "_" ++ (TypeKind.list inner).suffix) := by
        rw [name]
        rfl
      rw [TypeReference.derivedNames, ← List.append_assoc]
      exact scopeMiddle.intern present rfl title listed
  | map element ih =>
      obtain ⟨⟨middle, inner⟩, resolvedInner, mapped⟩ := map_eq_ok_iff.1 resolved
      obtain ⟨scopeMiddle, held, present, name⟩ := ih resolvedInner
      have title : (TypeReference.map element).typeName =
          Name.ofText (held.name.snake ++ "_" ++ (TypeKind.map inner).suffix) := by
        rw [name]
        rfl
      rw [TypeReference.derivedNames, ← List.append_assoc]
      exact scopeMiddle.intern present rfl title mapped

/-- A named type gives way to another one of its name that is neither list nor map. -/
theorem setType (scope : Scope named resources derived version) {index : Nat} {type : ApiType}
    (place : named[index]? = some type.name) (plain : type.kind.element? = none) :
    Scope named resources derived (version.setType ⟨index⟩ type) := by
  obtain ⟨old, present, name⟩ := Version.exists_type?_of_leads scope.leads place
  have names := Version.typeNames_setType present name.symm
  refine ⟨names ▸ scope.leads, names ▸ scope.types, scope.resources, ?_⟩
  intro id found element foundAt holds
  rcases Version.type?_setType_cases foundAt with ⟨kept, -⟩ | ⟨-, rfl⟩
  · obtain ⟨inner, there, title⟩ := scope.titled id found element kept holds
    by_cases here : index = element.index
    · have same : inner = old := by
        rw [Version.type?, ← here] at there
        exact Option.some.inj (there.symm.trans present)
      refine ⟨type, ?_, by rw [title, same, name]⟩
      rw [Version.type?, Version.setType, ← here]
      exact List.getElem?_set_self (List.getElem?_eq_some_iff.1 present).1
    · refine ⟨inner, ?_, title⟩
      rw [Version.type?, Version.setType]
      exact (List.getElem?_set_ne here).trans there
  · rw [plain] at holds
    cases holds

end Scope

end VersionedApi.Description
