import VersionedApi.Proofs.Description.Acceptance
import VersionedApi.Proofs.Description.Interning
import VersionedApi.Proofs.Description.WellFormed

/-!
# Representation of loaded versions

Seen from its types, a load resolves references and defines declared types, and
does nothing else.  Main statement: in the end a version has the built-in types,
the declared ones and one list or map for each that a reference asks for, and all
its numbers are in use.
-/

namespace VersionedApi.Description

open VersionedApi.Model

/-! ## The history of the types -/

/--
How a load gets from a version with named types to another, and which references it
has resolved on the way.
-/
inductive Builds (names : List Name) (start : Version) : List String → Version → Prop where
  | start : Builds names start [] start
  | resolve {texts : List String} {before after : Version} {text : String} {id : TypeId}
      (earlier : Builds names start texts before)
      (resolved : (TypeReference.ofText text).resolve before = .ok (after, id)) :
      Builds names start (texts ++ [text]) after
  | define {texts : List String} {before : Version} {index : Nat} {type : ApiType}
      (earlier : Builds names start texts before) (place : names[index]? = some type.name)
      (plain : type.kind.element? = none) :
      Builds names start texts (before.setType ⟨index⟩ type)
  | other {texts : List String} {before after : Version}
      (earlier : Builds names start texts before) (types : after.types = before.types) :
      Builds names start texts after

def partsOf (text : String) : List TypeReference :=
  (TypeReference.ofText text).parts

namespace Builds

variable {names : List Name} {start version after : Version} {texts : List String}

/-- At each moment the lists and maps are those that were asked for. -/
theorem interned (builds : Builds names start texts version)
    (declared : Interned names [] start) : Interned names (texts.flatMap partsOf) version := by
  induction builds with
  | start => exact declared
  | resolve earlier resolved ih =>
      rw [List.flatMap_append, List.flatMap_singleton]
      exact (ih.resolve resolved).1
  | define earlier place plain ih => exact ih.setType place plain
  | other earlier types ih => exact ih.of_types types

/-! ## Steps of a load -/

/-- Things that each hold one reference resolve these references. -/
theorem loadEach {δ α : Type} {reference : δ → String} {make : δ → TypeId → α}
    {load : Version → List δ → Except LoadFault (Version × List α)}
    (none : ∀ version, load version [] = .ok (version, []))
    (step : ∀ version description rest, load version (description :: rest) = do
      let (version, type) ← resolveType version (reference description)
      let (version, others) ← load version rest
      return (version, make description type :: others))
    {descriptions : List δ} {things : List α} (builds : Builds names start texts version)
    (loaded : load version descriptions = .ok (after, things)) :
    Builds names start (texts ++ descriptions.map reference) after := by
  induction descriptions generalizing version texts things with
  | nil =>
      rw [none] at loaded
      simp only [Except.ok.injEq, Prod.mk.injEq] at loaded
      obtain ⟨rfl, -⟩ := loaded
      rwa [List.map_nil, List.append_nil]
  | cons description rest ih =>
      rw [step, bind_eq_ok_iff] at loaded
      obtain ⟨⟨middle, type⟩, resolved, loaded⟩ := loaded
      obtain ⟨⟨last, others⟩, loadedRest, result⟩ := bind_eq_ok_iff.1 loaded
      simp only [pure_eq_ok_iff, Prod.mk.injEq] at result
      obtain ⟨rfl, -⟩ := result
      have further := ih (builds.resolve (mapError_eq_ok_iff.1 resolved)) loadedRest
      rwa [List.append_assoc, List.singleton_append] at further

/-- Steps one after the other resolve the references of each. -/
theorem foldlM {α : Type} {step : Version → α → Except LoadFault Version}
    {references : α → List String} {inputs : List α}
    (each : ∀ input ∈ inputs, ∀ {texts version after}, Builds names start texts version →
      step version input = .ok after → Builds names start (texts ++ references input) after)
    (builds : Builds names start texts version)
    (loaded : inputs.foldlM step version = .ok after) :
    Builds names start (texts ++ inputs.flatMap references) after := by
  induction inputs generalizing version texts with
  | nil =>
      simp only [List.foldlM_nil, pure_eq_ok_iff] at loaded
      subst loaded
      rwa [List.flatMap_nil, List.append_nil]
  | cons input rest ih =>
      rw [List.foldlM_cons, bind_eq_ok_iff] at loaded
      obtain ⟨middle, loadedFirst, loadedRest⟩ := loaded
      have further := ih (fun other member => each other (List.mem_cons_of_mem _ member))
        (each input List.mem_cons_self builds loadedFirst) loadedRest
      rwa [List.append_assoc, ← List.flatMap_cons] at further

theorem loadKind {description : TypeDescription} {kind : TypeKind}
    (builds : Builds names start texts version)
    (loaded : loadKind version description = .ok (after, kind)) :
    Builds names start (texts ++ description.references) after := by
  unfold Description.loadKind at loaded
  unfold TypeDescription.references
  split at loaded
  · next form =>
      simp only [Except.ok.injEq, Prod.mk.injEq] at loaded
      obtain ⟨rfl, -⟩ := loaded
      rwa [if_pos form, List.append_nil]
  · next notEnum =>
      obtain ⟨⟨last, attributes⟩, loadedAttributes, result⟩ := bind_eq_ok_iff.1 loaded
      simp only [pure_eq_ok_iff, Prod.mk.injEq] at result
      obtain ⟨rfl, -⟩ := result
      rw [if_neg notEnum]
      exact builds.loadEach (fun _ => rfl) (fun _ _ _ => rfl) loadedAttributes

theorem defineType {description : TypeDescription} {number : Nat}
    (builds : Builds names start texts version)
    (place : names[number]? = some (Name.ofText description.name))
    (defined : defineType version (description, number) = .ok after) :
    Builds names start (texts ++ description.references) after := by
  obtain ⟨⟨grown, kind⟩, loaded, result⟩ := bind_eq_ok_iff.1 defined
  rw [pure_eq_ok_iff] at result
  subst result
  exact (builds.loadKind loaded).define place (element?_of_loadKind loaded)

/-- The types of a version are defined one after the other. -/
theorem defineTypes {front : List Name} {descriptions : List TypeDescription}
    (builds : Builds (front ++ descriptions.map (Name.ofText ·.name)) start texts version)
    (defined : (descriptions.zipIdx front.length).foldlM Description.defineType version =
      .ok after) :
    Builds (front ++ descriptions.map (Name.ofText ·.name)) start
      (texts ++ descriptions.flatMap (·.references)) after := by
  rw [← flatMap_zipIdx descriptions front.length]
  refine builds.foldlM ?_ defined
  rintro ⟨description, number⟩ member texts version after builds defined
  obtain ⟨later, found⟩ := List.mem_zipIdx_iff_le_and_getElem?_sub.1 member
  refine builds.defineType ?_ defined
  rw [List.getElem?_append_right later, List.getElem?_map, found]
  rfl

theorem loadMethod {id : ResourceId} {description : MethodDescription}
    (builds : Builds names start texts version)
    (loaded : loadMethod id version description = .ok after) :
    Builds names start (texts ++ description.parameters.map (·.type)) after := by
  obtain ⟨⟨grown, parameters⟩, loadedParameters, result⟩ := bind_eq_ok_iff.1 loaded
  rw [pure_eq_ok_iff] at result
  subst result
  exact (builds.loadEach (fun _ => rfl) (fun _ _ _ => rfl) loadedParameters).other rfl

theorem loadLocator {id : ResourceId} {description : LocatorDescription}
    (builds : Builds names start texts version)
    (loaded : loadLocator id version description = .ok after) :
    Builds names start texts after := by
  unfold Description.loadLocator at loaded
  split at loaded
  · cases loaded
  · obtain rfl := Except.ok.inj loaded
    exact builds.other rfl

/-- A resource is filled with its methods and then with its locators. -/
theorem fillResource {description : ResourceDescription} {number : Nat}
    (builds : Builds names start texts version)
    (filled : fillResource version (description, number) = .ok after) :
    Builds names start (texts ++ description.references) after := by
  obtain ⟨middle, loadedMethods, loadedLocators⟩ := bind_eq_ok_iff.1 filled
  have methods : Builds names start (texts ++ description.references) middle :=
    builds.foldlM (fun _ _ _ _ _ builds loaded => builds.loadMethod loaded) loadedMethods
  have locators : Builds names start
      (texts ++ description.references ++ description.locators.flatMap fun _ => []) after := by
    refine methods.foldlM (fun _ _ _ _ _ builds loaded => ?_) loadedLocators
    rw [List.append_nil]
    exact builds.loadLocator loaded
  rwa [flatMap_nothing, List.append_nil] at locators

theorem fillResources {descriptions : List ResourceDescription} {first : Nat}
    (builds : Builds names start texts version)
    (filled : (descriptions.zipIdx first).foldlM Description.fillResource version = .ok after) :
    Builds names start (texts ++ descriptions.flatMap (·.references)) after := by
  rw [← flatMap_zipIdx descriptions first]
  exact builds.foldlM (fun _ _ _ _ _ builds filled => builds.fillResource filled) filled

/-- The history of the types starts when all of them are declared. -/
theorem of_loadTypes {descriptions : List TypeDescription}
    (types : version.types = ApiType.builtins)
    (loaded : loadTypes version descriptions = .ok after) :
    ∃ start, start.types = ApiType.builtins ++ descriptions.map placeholder ∧
      Builds (ApiType.builtins.map (·.name) ++ descriptions.map (Name.ofText ·.name)) start
        (descriptions.flatMap (·.references)) after := by
  obtain ⟨middle, declared, defined⟩ := bind_eq_ok_iff.1 loaded
  have distinct : (version.types.map (·.name)).Nodup := by
    rw [types]
    decide +kernel
  obtain ⟨layout, -⟩ := declareTypes distinct declared
  rw [types] at defined
  exact ⟨middle, by rw [layout, types], defineTypes .start defined⟩

theorem loadResources {descriptions : List ResourceDescription}
    (builds : Builds names start texts version)
    (loaded : loadResources version descriptions = .ok after) :
    Builds names start (texts ++ descriptions.flatMap (·.references)) after := by
  obtain ⟨middle, declared, filled⟩ := bind_eq_ok_iff.1 loaded
  have blanks : Builds names start (texts ++ descriptions.flatMap fun _ => []) middle := by
    refine builds.foldlM (fun _ _ _ _ _ builds declared => ?_) declared
    obtain ⟨-, rfl⟩ := declareResource_eq_ok_iff.1 declared
    rw [List.append_nil]
    exact builds.other rfl
  rw [flatMap_nothing, List.append_nil] at blanks
  exact blanks.fillResources filled

theorem chooseRoot (builds : Builds names start texts version) :
    Builds names start texts (chooseRoot version) := by
  refine builds.other ?_
  unfold Description.chooseRoot
  split <;> rfl

/-- The history of a whole version goes through all of its references. -/
theorem of_loadVersion {service : Name} {description : VersionDescription}
    (loaded : loadVersion service description = .ok version) :
    ∃ start, start.types = ApiType.builtins ++ description.types.map placeholder ∧
      Builds description.typeNames start description.references version := by
  obtain ⟨typed, loadedTypes, loaded⟩ := bind_eq_ok_iff.1 loaded
  obtain ⟨filled, loadedResources, result⟩ := bind_eq_ok_iff.1 loaded
  rw [pure_eq_ok_iff] at result
  subst result
  obtain ⟨start, placeholders, types⟩ := of_loadTypes rfl loadedTypes
  rw [description.references_eq]
  exact ⟨start, placeholders, (types.loadResources loadedResources).chooseRoot⟩

end Builds

/-- Types that are only declared ask for nothing. -/
theorem interned_placeholders {version : Version} {descriptions : List TypeDescription}
    (types : version.types = ApiType.builtins ++ descriptions.map placeholder) :
    Interned (ApiType.builtins.map (·.name) ++ descriptions.map (Name.ofText ·.name)) []
      version := by
  have plain (id : TypeId) (type : ApiType) (found : version.type? id = some type) :
      type.kind.element? = none :=
    (arena_placeholders types).plain type (types ▸ List.mem_of_getElem? found)
  have holder {id : TypeId} {type : ApiType} (found : version.type? id = some type) :
      ¬ type.kind.element?.isSome := by
    rw [plain id type found]
    exact nofun
  refine ⟨?_, fun id type found _ => plain id type found,
    fun _ _ _ _ found _ holds => absurd holds (holder found),
    fun _ _ found holds => absurd holds (holder found), nofun⟩
  rw [Version.typeNames, types, List.map_append, List.map_map]
  exact List.prefix_refl _

/-! ## Loaded versions -/

/--
A version holds the built-in types, the declared ones in their order and, behind
them, a list or map for each that its references ask for, no kind twice.  Every
number in it is in use, and no name is used twice.
-/
structure Represents (description : VersionDescription) (version : Version) : Prop where
  types : ∃ declared derived, version.types = ApiType.builtins ++ declared ++ derived ∧
    declared.map (·.name) = description.types.map (Name.ofText ·.name) ∧
    (∀ type ∈ declared, type.kind.hasSchema) ∧
    (∀ type ∈ derived, type.kind.element?.isSome) ∧
    (derived.map (·.kind)).Nodup
  typeNames :
    (ApiType.builtins.map (·.name) ++ description.types.map (Name.ofText ·.name)).Nodup
  derived : ∀ id, (∃ type, version.type? id = some type ∧ type.kind.element?.isSome) ↔
    ∃ text ∈ description.references, ∃ part ∈ partsOf text, Means version part id
  single : ∀ text ∈ description.references, ∀ part ∈ partsOf text,
    ∃! id, Means version part id
  attributes : ∀ type ∈ version.types, ∀ attr ∈ type.kind.attributes,
    attr.type.index < version.types.length
  parameters : ∀ resource ∈ version.resources, ∀ method ∈ resource.methods,
    ∀ parameter ∈ method.parameters, parameter.type.index < version.types.length
  elements : ∀ type ∈ version.types, ∀ element, type.kind.element? = some element →
    element.index < version.types.length
  resourceNames : (version.resources.map (·.name)).Nodup
  locators : ∀ resource ∈ version.resources, ∀ locator ∈ resource.locators,
    locator.target.index < version.resources.length
  root : ∀ id, version.root = some id → id.index < version.resources.length

/-- A described type is an enum or a struct. -/
theorem KindAgrees.hasSchema {reads : Reading} {count : Nat} {version : Version}
    {description : TypeDescription} {kind : TypeKind}
    (agrees : KindAgrees reads count version description kind) : kind.hasSchema := by
  cases agrees with
  | enum => rfl
  | struct => rfl

/-- Lists and maps that stand behind each other are of different kinds. -/
theorem Interned.nodup_kinds {names : List Name} {asked : List TypeReference} {version : Version}
    (interned : Interned names asked version) {front derived : List ApiType}
    (layout : version.types = front ++ derived)
    (holders : ∀ type ∈ derived, type.kind.element?.isSome) :
    (derived.map (·.kind)).Nodup := by
  have behind {place : Nat} (bound : place < derived.length) :
      version.type? ⟨front.length + place⟩ = some derived[place] := by
    rw [Version.type?, layout, List.getElem?_append_right (Nat.le_add_right _ _),
      Nat.add_sub_cancel_left]
    exact List.getElem?_eq_getElem bound
  rw [List.Nodup, List.pairwise_map, List.pairwise_iff_getElem]
  intro early late boundEarly boundLate before same
  have equal := interned.single _ _ _ _ (behind boundEarly) (behind boundLate)
    (holders _ (List.getElem_mem boundEarly)) same.symm
  have indices := congrArg TypeId.index equal
  dsimp only at indices
  omega

/-- A version that was loaded represents its description. -/
theorem loadVersion_represents {service : Name} {description : VersionDescription}
    {version : Version} (loaded : loadVersion service description = .ok version) :
    Represents description version := by
  have agrees : VersionAgrees inUse service description version :=
    loadVersion_agrees sound_inUse (fun _ _ => trivial) loaded
  obtain ⟨start, placeholders, builds⟩ := Builds.of_loadVersion loaded
  have interned := builds.interned (interned_placeholders placeholders)
  obtain ⟨declared, derived, layout, agreeTypes, holders⟩ := agrees.types
  have wellFormed := agrees.wellFormed
  constructor
  · refine ⟨declared, derived, layout, map_eq_of_forall₂ (·.name) agreeTypes, ?_, holders,
      interned.nodup_kinds layout holders⟩
    intro type member
    obtain ⟨_, -, agree⟩ := exists_of_mem_right agreeTypes member
    exact agree.kind.hasSchema
  · exact agrees.typeNames
  · intro id
    constructor
    · rintro ⟨type, found, holds⟩
      obtain ⟨part, member, means⟩ := interned.wanted id type found holds
      obtain ⟨text, among, inside⟩ := List.mem_flatMap.1 member
      exact ⟨text, among, part, inside, means⟩
    · rintro ⟨text, -, part, inside, means⟩
      exact means.exists_holder inside
  · intro text among part inside
    obtain ⟨id, means⟩ := interned.meant part (List.mem_flatMap.2 ⟨text, among, inside⟩)
    exact ⟨id, means, fun other meansOther => interned.unique means meansOther⟩
  · intro type present attr member
    exact (wellFormed.attributes type present attr member).2
  · intro resource present method offered parameter member
    exact (wellFormed.parameters resource present method offered parameter member).2
  · intro type present element holds
    obtain ⟨place, bound, rfl⟩ := List.mem_iff_getElem.1 present
    have earlier := wellFormed.ordered ⟨place⟩ _ element (List.getElem?_eq_getElem bound) holds
    exact Nat.lt_trans earlier bound
  · exact agrees.resourceNames
  · intro resource present locator member
    obtain ⟨target, found⟩ :=
      Option.isSome_iff_exists.1 (wellFormed.locators resource present locator member)
    exact (List.getElem?_eq_some_iff.1 found).1
  · intro id chosen
    obtain ⟨resource, found⟩ := Option.isSome_iff_exists.1 (wellFormed.root id chosen)
    exact (List.getElem?_eq_some_iff.1 found).1

/-- Every version of a loaded model represents its description, one for one and in order. -/
theorem load_represents {description : ModelDescription} {model : ApiModel}
    (loaded : description.load = .ok model) :
    List.Forall₂ (fun service built =>
      List.Forall₂ Represents service.versions built.versions)
      description.services model.services := by
  obtain ⟨services, loadedServices, result⟩ := bind_eq_ok_iff.1 loaded
  rw [pure_eq_ok_iff] at result
  subst result
  refine (mapM_eq_ok_iff.1 loadedServices).imp fun service built loadedService => ?_
  obtain ⟨versions, loadedVersions, result⟩ := bind_eq_ok_iff.1 loadedService
  rw [pure_eq_ok_iff] at result
  subst result
  exact (mapM_eq_ok_iff.1 loadedVersions).imp fun _ _ => loadVersion_represents

/-- The list of strings is asked for twice and named once, and is there once. -/
theorem load_represents_stray : ∃ model built version,
    (withAttributes ["[]String", "StringList", "map[string] []String"]).load = .ok model ∧
    model.services = [built] ∧ built.versions = [version] ∧
    (version.types.drop 8).map (·.kind) = [.list ⟨4⟩, .map ⟨8⟩] ∧
    ∀ id, (∃ type, version.type? id = some type ∧ type.kind.element?.isSome) ↔
      ∃ text ∈ ["[]String", "StringList", "map[string] []String"], ∃ part ∈ partsOf text,
        Means version part id := by
  obtain ⟨model, loaded, kinds⟩ := exists_eq_ok_of_any
    (show (withAttributes ["[]String", "StringList", "map[string] []String"]).load.toOption.any
      (fun model => model.versions.map (fun version => (version.types.drop 8).map (·.kind)) ==
        [[.list ⟨4⟩, .map ⟨8⟩]]) by decide +kernel)
  rw [beq_iff_eq] at kinds
  obtain ⟨built, rest, representsService, none, services⟩ :=
    List.forall₂_cons_left_iff.1 (load_represents loaded)
  obtain rfl := List.forall₂_nil_left_iff.1 none
  obtain ⟨version, rest, represents, none, versions⟩ :=
    List.forall₂_cons_left_iff.1 representsService
  obtain rfl := List.forall₂_nil_left_iff.1 none
  have all : model.versions = [version] := by
    rw [ApiModel.versions, services, List.flatMap_singleton, versions]
  rw [all, List.map_singleton, List.singleton_inj] at kinds
  exact ⟨model, built, version, loaded, services, versions, kinds, represents.derived⟩

end VersionedApi.Description
