import VersionedApi.Proofs.Description.Faithful
import VersionedApi.Proofs.Description.Scope

/-!
# Which descriptions are accepted

A description is accepted if no name is declared twice, every locator leads to
a declared resource, and every reference to a type ends at a name in scope.
The names of lists and maps come into scope as they are asked for.  So all
descriptions that are coherent are accepted, and besides them those in which a
reference ends at the name of a list or map that an earlier one asks for.
-/

namespace VersionedApi.Description

open VersionedApi.Model

/-! ## Parts of numbered things -/

/-- Things have the same parts when they are numbered. -/
theorem flatMap_zipIdx {α β : Type} (inputs : List α) (start : Nat) (parts : α → List β) :
    (inputs.zipIdx start).flatMap (fun entry => parts entry.1) = inputs.flatMap parts := by
  rw [← List.flatMap_map Prod.fst parts, List.zipIdx_map_fst]

theorem flatMap_nothing {α : Type} (inputs : List α) :
    inputs.flatMap (fun _ => ([] : List String)) = [] := by
  simp

/-! ## Steps of a load and what they ask for -/

/--
A step of a load succeeds if the references can be read and the targets are
resources, and leaves the names of the lists and maps in scope.
-/
structure Accepts (named resources derived : List Name) {β : Type} (state : β → Version)
    (references targets : List String) (outcome : Except LoadFault β) : Prop where
  ok_iff : (∃ result, outcome = .ok result) ↔
    Readable (named ++ derived) references ∧ ∀ text ∈ targets, Name.ofText text ∈ resources
  scope : ∀ {result}, outcome = .ok result →
    Scope named resources (derived ++ references.flatMap derivedNames) (state result)

namespace Accepts

variable {named resources derived : List Name} {α β : Type} {stateBefore : α → Version}
  {state : β → Version}

theorem done {value : β} (scope : Scope named resources derived (state value)) :
    Accepts named resources derived state [] [] (.ok value) where
  ok_iff := by simp [Readable]
  scope result := by
    obtain rfl := Except.ok.inj result
    simpa using scope

/-- One step after another asks for what both of them ask for. -/
theorem bind {early late earlyTargets lateTargets : List String} {first : Except LoadFault α}
    {next : α → Except LoadFault β}
    (accepts : Accepts named resources derived stateBefore early earlyTargets first)
    (goesOn : ∀ {value}, first = .ok value →
      Scope named resources (derived ++ early.flatMap derivedNames) (stateBefore value) →
      Accepts named resources (derived ++ early.flatMap derivedNames) state late lateTargets
        (next value)) :
    Accepts named resources derived state (early ++ late) (earlyTargets ++ lateTargets)
      (first >>= next) where
  ok_iff := by
    simp only [bind_eq_ok_iff, readable_append, List.append_assoc, List.forall_mem_append]
    constructor
    · rintro ⟨result, value, loaded, further⟩
      have both := (goesOn loaded (accepts.scope loaded)).ok_iff.1 ⟨result, further⟩
      have firstBoth := accepts.ok_iff.1 ⟨value, loaded⟩
      exact ⟨⟨firstBoth.1, both.1⟩, firstBoth.2, both.2⟩
    · rintro ⟨⟨readable, readableLate⟩, known, knownLate⟩
      obtain ⟨value, loaded⟩ := accepts.ok_iff.2 ⟨readable, known⟩
      have later := goesOn loaded (accepts.scope loaded)
      obtain ⟨result, further⟩ := later.ok_iff.2 ⟨readableLate, knownLate⟩
      exact ⟨result, value, loaded, further⟩
  scope result := by
    obtain ⟨value, loaded, further⟩ := bind_eq_ok_iff.1 result
    rw [List.flatMap_append, ← List.append_assoc]
    exact (goesOn loaded (accepts.scope loaded)).scope further

/-- A last step that cannot fail asks for nothing. -/
theorem finish {references targets : List String} {first : Except LoadFault α} {make : α → β}
    (accepts : Accepts named resources derived stateBefore references targets first)
    (keeps : ∀ {derived value}, first = .ok value →
      Scope named resources derived (stateBefore value) →
      Scope named resources derived (state (make value))) :
    Accepts named resources derived state references targets
      (first >>= fun value => .ok (make value)) := by
  have both : Accepts named resources derived state (references ++ []) (targets ++ [])
      (first >>= fun value => .ok (make value)) :=
    accepts.bind fun loaded scope => .done (keeps loaded scope)
  simpa using both

theorem foldlM {step : Version → α → Except LoadFault Version}
    {references targets : α → List String} {inputs : List α}
    (each : ∀ input ∈ inputs, ∀ {derived version}, Scope named resources derived version →
      Accepts named resources derived id (references input) (targets input) (step version input))
    {version : Version} (scope : Scope named resources derived version) :
    Accepts named resources derived id (inputs.flatMap references) (inputs.flatMap targets)
      (inputs.foldlM step version) := by
  induction inputs generalizing derived version with
  | nil => exact .done scope
  | cons input rest ih =>
      rw [List.foldlM_cons, List.flatMap_cons, List.flatMap_cons]
      exact (each input List.mem_cons_self scope).bind
        fun _ => ih fun other member => each other (List.mem_cons_of_mem _ member)

/-- Steps for things that are numbered in their order. -/
theorem foldlM_zipIdx {step : Version → α × Nat → Except LoadFault Version}
    {references targets : α → List String} {inputs : List α} {start : Nat}
    (each : ∀ {place input}, inputs[place]? = some input → ∀ {derived version},
      Scope named resources derived version →
      Accepts named resources derived id (references input) (targets input)
        (step version (input, start + place)))
    {version : Version} (scope : Scope named resources derived version) :
    Accepts named resources derived id (inputs.flatMap references) (inputs.flatMap targets)
      ((inputs.zipIdx start).foldlM step version) := by
  rw [← flatMap_zipIdx inputs start references, ← flatMap_zipIdx inputs start targets]
  refine foldlM ?_ scope
  rintro ⟨input, number⟩ member derived version scope
  obtain ⟨later, found⟩ := List.mem_zipIdx_iff_le_and_getElem?_sub.1 member
  have accepts := each found scope
  rwa [Nat.add_sub_cancel' later] at accepts

end Accepts

section Steps

variable {named resources derived : List Name} {version : Version}

theorem accepts_resolveType (scope : Scope named resources derived version) (text : String) :
    Accepts named resources derived Prod.fst [text] [] (resolveType version text) where
  ok_iff := by
    simp only [resolveType, mapError_eq_ok_iff, scope.resolve_ok_iff]
    simp [Readable, baseName]
  scope {result} resolved := by
    simpa [derivedNames] using (scope.resolve (mapError_eq_ok_iff.1 resolved)).1

/-- Things that each hold one reference ask for these references. -/
theorem accepts_loadEach {δ α : Type} {reference : δ → String} {make : δ → TypeId → α}
    {load : Version → List δ → Except LoadFault (Version × List α)}
    (none : ∀ version, load version [] = .ok (version, []))
    (step : ∀ version description rest, load version (description :: rest) = do
      let (version, type) ← resolveType version (reference description)
      let (version, others) ← load version rest
      return (version, make description type :: others))
    (scope : Scope named resources derived version) (descriptions : List δ) :
    Accepts named resources derived Prod.fst (descriptions.map reference) []
      (load version descriptions) := by
  induction descriptions generalizing derived version with
  | nil =>
      rw [none]
      exact .done scope
  | cons description rest ih =>
      rw [step]
      exact (accepts_resolveType scope _).bind fun _ grown =>
        (ih grown).finish fun _ => id

/-! ## Types -/

/-- The references of a type; those of an enum are ignored. -/
def TypeDescription.references (description : TypeDescription) : List String :=
  if description.form = .enum then [] else description.attributes.map (·.type)

theorem accepts_loadKind (scope : Scope named resources derived version)
    (description : TypeDescription) :
    Accepts named resources derived Prod.fst description.references []
      (loadKind version description) := by
  have attributes : Accepts named resources derived Prod.fst
      (description.attributes.map (·.type)) []
      (loadAttributes version description.attributes) :=
    accepts_loadEach (fun _ => rfl) (fun _ _ _ => rfl) scope _
  unfold loadKind TypeDescription.references
  cases description.form with
  | enum => exact .done scope
  | struct => exact attributes.finish fun _ => id
  | identified => exact attributes.finish fun _ => id

/-- A described type is neither list nor map. -/
theorem element?_of_loadKind {description : TypeDescription} {after : Version} {kind : TypeKind}
    (loaded : loadKind version description = .ok (after, kind)) : kind.element? = none := by
  unfold loadKind at loaded
  split at loaded
  · simp only [Except.ok.injEq, Prod.mk.injEq] at loaded
    obtain ⟨-, rfl⟩ := loaded
    rfl
  · obtain ⟨attributes, -, result⟩ := bind_eq_ok_iff.1 loaded
    simp only [pure_eq_ok_iff, Prod.mk.injEq] at result
    obtain ⟨-, rfl⟩ := result
    rfl

/-- A type whose number has its name is defined. -/
theorem accepts_defineType (scope : Scope named resources derived version)
    (description : TypeDescription) {number : Nat}
    (place : named[number]? = some (Name.ofText description.name)) :
    Accepts named resources derived id description.references []
      (defineType version (description, number)) :=
  (accepts_loadKind scope description).finish fun loaded grown =>
    grown.setType place (element?_of_loadKind loaded)

/-- The types of a version are defined one after the other. -/
theorem accepts_defineTypes {front : List Name} {descriptions : List TypeDescription}
    (scope : Scope (front ++ descriptions.map (Name.ofText ·.name)) resources derived version) :
    Accepts (front ++ descriptions.map (Name.ofText ·.name)) resources derived id
      (descriptions.flatMap (·.references)) []
      ((descriptions.zipIdx front.length).foldlM defineType version) := by
  rw [← flatMap_nothing descriptions]
  refine Accepts.foldlM_zipIdx ?_ scope
  intro place description found derived version scope
  refine accepts_defineType scope description ?_
  rw [List.getElem?_append_right (Nat.le_add_right _ _), Nat.add_sub_cancel_left,
    List.getElem?_map, found]
  rfl

/-! ## Resources -/

def ResourceDescription.references (description : ResourceDescription) : List String :=
  description.methods.flatMap fun method => method.parameters.map (·.type)

def ResourceDescription.targets (description : ResourceDescription) : List String :=
  description.locators.map (·.target)

/-- Changing a resource without its name changes nothing about the scope. -/
theorem Scope.modifyResource (scope : Scope named resources derived version)
    (number : ResourceId) {change : Resource → Resource}
    (name : ∀ resource, (change resource).name = resource.name) :
    Scope named resources derived (version.modifyResource number change) := by
  refine { scope with resources := ?_ }
  rw [← scope.resources]
  refine List.ext_getElem? fun place => ?_
  rw [Version.modifyResource, List.getElem?_map, List.getElem?_map, List.getElem?_modify]
  cases version.resources[place]? with
  | none => rfl
  | some resource => by_cases here : number.index = place <;> simp [here, name]

theorem accepts_loadMethod (scope : Scope named resources derived version)
    (number : ResourceId) (description : MethodDescription) :
    Accepts named resources derived id (description.parameters.map (·.type)) []
      (loadMethod number version description) := by
  have parameters : Accepts named resources derived Prod.fst
      (description.parameters.map (·.type)) []
      (loadParameters version description.parameters) :=
    accepts_loadEach (fun _ => rfl) (fun _ _ _ => rfl) scope _
  exact parameters.finish fun _ grown => grown.modifyResource number fun _ => rfl

theorem accepts_loadLocator (scope : Scope named resources derived version)
    (number : ResourceId) (description : LocatorDescription) :
    Accepts named resources derived id [] [description.target]
      (loadLocator number version description) := by
  have known : (version.findResource? (Name.ofText description.target)).isSome ↔
      Name.ofText description.target ∈ resources := scope.findResource?_isSome
  unfold loadLocator
  cases search : version.findResource? (Name.ofText description.target) with
  | none =>
      rw [search] at known
      exact ⟨by simpa [Readable] using known, nofun⟩
  | some target =>
      rw [search] at known
      refine ⟨by simpa [Readable] using known, fun result => ?_⟩
      obtain rfl := Except.ok.inj result
      rw [List.flatMap_nil, List.append_nil]
      exact scope.modifyResource number fun _ => rfl

/-- A resource is filled with its methods and then with its locators. -/
theorem accepts_fillResource (scope : Scope named resources derived version)
    (description : ResourceDescription) (number : Nat) :
    Accepts named resources derived id description.references description.targets
      (fillResource version (description, number)) := by
  have methods : Accepts named resources derived id description.references []
      (description.methods.foldlM (loadMethod ⟨number⟩) version) := by
    rw [← flatMap_nothing description.methods]
    exact Accepts.foldlM (fun method _ _ _ scope => accepts_loadMethod scope _ method) scope
  have locators {derived : List Name} {version : Version}
      (scope : Scope named resources derived version) :
      Accepts named resources derived id [] description.targets
        (description.locators.foldlM (loadLocator ⟨number⟩) version) := by
    rw [← flatMap_nothing description.locators, ResourceDescription.targets, List.map_eq_flatMap]
    exact Accepts.foldlM (fun locator _ _ _ scope => accepts_loadLocator scope _ locator) scope
  have both := methods.bind fun _ grown => locators grown
  rwa [List.append_nil, List.nil_append] at both

end Steps

/-! ## Declaring -/

/-- Things of different names can be declared one after the other. -/
theorem exists_declareEach {δ : Type} (declare : Version → δ → Except LoadFault Version)
    (name : δ → Name) (names : Version → List Name) (add : Version → δ → Version)
    (step : ∀ {version after description}, declare version description = .ok after ↔
      name description ∉ names version ∧ after = add version description)
    (grown : ∀ version description,
      names (add version description) = names version ++ [name description])
    {descriptions : List δ} {version : Version}
    (distinct : (names version ++ descriptions.map name).Nodup) :
    ∃ after, descriptions.foldlM declare version = .ok after := by
  induction descriptions generalizing version with
  | nil => exact ⟨version, rfl⟩
  | cons description rest ih =>
      have fresh : name description ∉ names version := fun taken =>
        (List.nodup_append.1 distinct).2.2 _ taken _ List.mem_cons_self rfl
      have later : (names (add version description) ++ rest.map name).Nodup := by
        rw [grown, List.append_assoc]
        exact distinct
      obtain ⟨after, declared⟩ := ih later
      exact ⟨after, bind_eq_ok_iff.2 ⟨_, step.2 ⟨fresh, rfl⟩, declared⟩⟩

theorem declareTypes_ok_iff {version : Version} (types : version.types = ApiType.builtins)
    {descriptions : List TypeDescription} :
    (∃ after, descriptions.foldlM declareType version = .ok after) ↔
      (ApiType.builtins.map (·.name) ++ descriptions.map (Name.ofText ·.name)).Nodup := by
  constructor
  · rintro ⟨after, declared⟩
    have distinct : (version.types.map (·.name)).Nodup := by
      rw [types]
      decide +kernel
    obtain ⟨rfl, distinctAfter⟩ := declareTypes distinct declared
    simpa [types, placeholder, Function.comp_def] using distinctAfter
  · intro distinct
    rw [← types] at distinct
    exact exists_declareEach declareType (Name.ofText ·.name) (·.types.map (·.name))
      (fun version description =>
        { version with types := version.types ++ [placeholder description] })
      declareType_eq_ok_iff (fun _ _ => by simp [placeholder]) distinct

theorem declareResources_ok_iff {version : Version} (none : version.resources = [])
    {descriptions : List ResourceDescription} :
    (∃ after, descriptions.foldlM declareResource version = .ok after) ↔
      (descriptions.map (Name.ofText ·.name)).Nodup := by
  constructor
  · rintro ⟨after, declared⟩
    have distinct : (version.resources.map (·.name)).Nodup := by
      rw [none]
      exact List.nodup_nil
    obtain ⟨rfl, distinctAfter⟩ := declareResources distinct declared
    simpa [none, blank, Function.comp_def] using distinctAfter
  · intro distinct
    refine exists_declareEach declareResource (Name.ofText ·.name) (·.resources.map (·.name))
      (fun version description =>
        { version with resources := version.resources ++ [blank description] })
      declareResource_eq_ok_iff (fun _ _ => by simp [blank]) ?_
    simpa [none] using distinct

/-! ## Versions -/

/-- Declared types are in scope, and nothing else is. -/
theorem scope_placeholders {version : Version} {descriptions : List TypeDescription}
    (types : version.types = ApiType.builtins ++ descriptions.map placeholder)
    (none : version.resources = []) :
    Scope (ApiType.builtins.map (·.name) ++ descriptions.map (Name.ofText ·.name)) [] []
      version := by
  have names : version.typeNames =
      ApiType.builtins.map (·.name) ++ descriptions.map (Name.ofText ·.name) := by
    simp [Version.typeNames, types, placeholder, Function.comp_def]
  refine ⟨names ▸ List.prefix_refl _, by simp [names], by simp [none], ?_⟩
  intro id type element found holds
  have plain := (arena_placeholders types).plain type (types ▸ List.mem_of_getElem? found)
  rw [plain] at holds
  cases holds

/-- The references that a version is loaded by, types first. -/
theorem VersionDescription.references_eq (description : VersionDescription) :
    description.references = description.types.flatMap (·.references) ++
      description.resources.flatMap (·.references) := by
  rw [VersionDescription.references]
  congr 1
  induction description.types with
  | nil => rfl
  | cons type rest ih =>
      rw [List.flatMap_cons, ← ih, List.filter_cons]
      by_cases form : type.form = .enum
      · rw [if_neg (by simp [form]), TypeDescription.references, if_pos form, List.nil_append]
      · rw [if_pos (by simp [form]), TypeDescription.references, if_neg form, List.flatMap_cons]

def VersionDescription.targets (description : VersionDescription) : List String :=
  description.resources.flatMap (·.targets)

def VersionDescription.resourceNames (description : VersionDescription) : List Name :=
  description.resources.map (Name.ofText ·.name)

structure VersionDescription.Acceptable (description : VersionDescription) : Prop where
  types : description.typeNames.Nodup
  references : Readable description.typeNames description.references
  resources : description.resourceNames.Nodup
  targets : ∀ text ∈ description.targets, Name.ofText text ∈ description.resourceNames

/-- The names of a version are distinct, and all that it refers to is built in or declared. -/
structure VersionDescription.Coherent (description : VersionDescription) : Prop where
  types : description.typeNames.Nodup
  references : ∀ text ∈ description.references, baseName text ∈ description.typeNames
  resources : description.resourceNames.Nodup
  targets : ∀ text ∈ description.targets, Name.ofText text ∈ description.resourceNames

/-- Types are loaded if their names are distinct and their references can be read. -/
theorem loadTypes_ok_iff {version : Version} (types : version.types = ApiType.builtins)
    (none : version.resources = []) {descriptions : List TypeDescription} :
    let names := ApiType.builtins.map (·.name) ++ descriptions.map (Name.ofText ·.name)
    let references := descriptions.flatMap (·.references)
    ((∃ after, loadTypes version descriptions = .ok after) ↔
      names.Nodup ∧ Readable names references) ∧
    ∀ after, loadTypes version descriptions = .ok after →
      Scope names [] (references.flatMap derivedNames) after := by
  intro names references
  have define {middle : Version}
      (declared : descriptions.foldlM declareType version = .ok middle) :
      Accepts names [] [] id references []
        ((descriptions.zipIdx version.types.length).foldlM defineType middle) := by
    have distinct : (version.types.map (·.name)).Nodup := by
      rw [types]
      decide +kernel
    obtain ⟨rfl, -⟩ := declareTypes distinct declared
    rw [types]
    exact accepts_defineTypes (scope_placeholders rfl none)
  constructor
  · rw [← declareTypes_ok_iff types]
    constructor
    · rintro ⟨after, loaded⟩
      obtain ⟨middle, declared, defined⟩ := bind_eq_ok_iff.1 loaded
      have readable := ((define declared).ok_iff.1 ⟨after, defined⟩).1
      exact ⟨⟨middle, declared⟩, by simpa using readable⟩
    · rintro ⟨⟨middle, declared⟩, readable⟩
      obtain ⟨after, defined⟩ := (define declared).ok_iff.2 ⟨by simpa using readable, nofun⟩
      exact ⟨after, bind_eq_ok_iff.2 ⟨middle, declared, defined⟩⟩
  · intro after loaded
    obtain ⟨middle, declared, defined⟩ := bind_eq_ok_iff.1 loaded
    simpa using (define declared).scope defined

/-- Resources are loaded if their names are distinct, and references and locators lead somewhere. -/
theorem loadResources_ok_iff {named derived : List Name} {version : Version}
    (scope : Scope named [] derived version) {descriptions : List ResourceDescription} :
    let names := descriptions.map (Name.ofText ·.name)
    (∃ after, loadResources version descriptions = .ok after) ↔
      names.Nodup ∧ Readable (named ++ derived) (descriptions.flatMap (·.references)) ∧
        ∀ text ∈ descriptions.flatMap (·.targets), Name.ofText text ∈ names := by
  intro names
  have none : version.resources = [] := List.map_eq_nil_iff.1 scope.resources
  have fill {middle : Version}
      (declared : descriptions.foldlM declareResource version = .ok middle) :
      Accepts named names derived id (descriptions.flatMap (·.references))
        (descriptions.flatMap (·.targets))
        ((descriptions.zipIdx version.resources.length).foldlM fillResource middle) := by
    obtain ⟨rfl, -⟩ := declareResources (by rw [none]; exact List.nodup_nil) declared
    refine Accepts.foldlM_zipIdx
      (fun _ _ _ scope => accepts_fillResource scope _ _) { scope with resources := ?_ }
    simp [none, names, blank, Function.comp_def]
  rw [← declareResources_ok_iff none]
  constructor
  · rintro ⟨after, loaded⟩
    obtain ⟨middle, declared, filled⟩ := bind_eq_ok_iff.1 loaded
    exact ⟨⟨middle, declared⟩, (fill declared).ok_iff.1 ⟨after, filled⟩⟩
  · rintro ⟨⟨middle, declared⟩, asked⟩
    obtain ⟨after, filled⟩ := (fill declared).ok_iff.2 asked
    exact ⟨after, bind_eq_ok_iff.2 ⟨middle, declared, filled⟩⟩

theorem loadVersion_ok_iff {service : Name} {description : VersionDescription} :
    (∃ version, loadVersion service description = .ok version) ↔ description.Acceptable := by
  let start : Version :=
    { Version.empty service (Name.ofText description.name) with doc := description.doc }
  have typesLoaded := @loadTypes_ok_iff start rfl rfl description.types
  have split : Readable description.typeNames description.references ↔
      Readable description.typeNames (description.types.flatMap (·.references)) ∧
        Readable (description.typeNames ++
            (description.types.flatMap (·.references)).flatMap derivedNames)
          (description.resources.flatMap (·.references)) := by
    rw [description.references_eq, readable_append]
  constructor
  · rintro ⟨version, loaded⟩
    obtain ⟨typed, loadedTypes, loaded⟩ := bind_eq_ok_iff.1 loaded
    obtain ⟨filled, loadedResources, -⟩ := bind_eq_ok_iff.1 loaded
    obtain ⟨types, readable⟩ := typesLoaded.1.1 ⟨typed, loadedTypes⟩
    obtain ⟨resources, readableLater, targets⟩ :=
      (loadResources_ok_iff (typesLoaded.2 typed loadedTypes)).1 ⟨filled, loadedResources⟩
    exact ⟨types, split.2 ⟨readable, readableLater⟩, resources, targets⟩
  · rintro ⟨types, references, resources, targets⟩
    obtain ⟨readable, readableLater⟩ := split.1 references
    obtain ⟨typed, loadedTypes⟩ := typesLoaded.1.2 ⟨types, readable⟩
    obtain ⟨filled, loadedResources⟩ :=
      (loadResources_ok_iff (typesLoaded.2 typed loadedTypes)).2
        ⟨resources, readableLater, targets⟩
    exact ⟨_, bind_eq_ok_iff.2 ⟨typed, loadedTypes,
      bind_eq_ok_iff.2 ⟨filled, loadedResources, rfl⟩⟩⟩

/-! ## Descriptions -/

/-- A list can be loaded if its members can. -/
theorem mapM_ok_iff {ε α β : Type} {load : α → Except ε β} {inputs : List α} :
    (∃ results, inputs.mapM load = .ok results) ↔
      ∀ input ∈ inputs, ∃ result, load input = .ok result := by
  induction inputs with
  | nil => exact ⟨fun _ => nofun, fun _ => ⟨[], rfl⟩⟩
  | cons input rest ih =>
      rw [List.forall_mem_cons, ← ih]
      simp only [List.mapM_cons, bind_eq_ok_iff, pure_eq_ok_iff]
      constructor
      · rintro ⟨_, result, loaded, others, loadedRest, -⟩
        exact ⟨⟨result, loaded⟩, others, loadedRest⟩
      · rintro ⟨⟨result, loaded⟩, others, loadedRest⟩
        exact ⟨_, result, loaded, others, loadedRest, rfl⟩

theorem load_ok_iff {description : ModelDescription} :
    (∃ model, description.load = .ok model) ↔
      ∀ service ∈ description.services, ∀ version ∈ service.versions, version.Acceptable := by
  have service (description : ServiceDescription) :
      (∃ service, loadService description = .ok service) ↔
        ∀ version ∈ description.versions, version.Acceptable := by
    refine exists_bind_pure_eq_ok_iff.trans ?_
    rw [mapM_ok_iff]
    simp only [loadVersion_ok_iff]
  refine exists_bind_pure_eq_ok_iff.trans ?_
  rw [mapM_ok_iff]
  simp only [service]

namespace VersionDescription

variable {description : VersionDescription}

/-- Coherent versions are acceptable ones in which every reference ends at a type's name. -/
theorem coherent_iff : description.Coherent ↔ description.Acceptable ∧
    ∀ text ∈ description.references, baseName text ∈ description.typeNames := by
  constructor
  · intro coherent
    exact ⟨{ coherent with references := readable_of_forall coherent.references },
      coherent.references⟩
  · rintro ⟨acceptable, grounded⟩
    exact { acceptable with references := grounded }

/-- A reference to no type of an acceptable version ends at the name of a list or map. -/
theorem Acceptable.exists_derived (acceptable : description.Acceptable) {text : String}
    (member : text ∈ description.references) (stray : baseName text ∉ description.typeNames) :
    ∃ other ∈ description.references, baseName text ∈ derivedNames other :=
  (acceptable.references.mem_or_derived member).resolve_left stray

end VersionDescription

/--
A description is accepted if and only if all its versions are acceptable.  The
coherent ones are those accepted ones in which every reference ends at the name
of a type; any other reference ends at the name of a list or map that a
reference of its version asks for.
-/
theorem load_accepts (description : ModelDescription) :
    ((∃ model, description.load = .ok model) ↔
      ∀ service ∈ description.services, ∀ version ∈ service.versions, version.Acceptable) ∧
    ((∃ model, description.load = .ok model) ∧ description.Grounded ↔
      ∀ service ∈ description.services, ∀ version ∈ service.versions, version.Coherent) ∧
    ((∃ model, description.load = .ok model) →
      ∀ service ∈ description.services, ∀ version ∈ service.versions,
        ∀ text ∈ version.references, baseName text ∉ version.typeNames →
          ∃ other ∈ version.references, baseName text ∈ derivedNames other) := by
  refine ⟨load_ok_iff, ?_, ?_⟩
  · simp only [load_ok_iff, VersionDescription.coherent_iff]
    constructor
    · rintro ⟨acceptable, grounded⟩ service offered version listed
      exact ⟨acceptable service offered version listed, grounded service offered version listed⟩
    · intro coherent
      exact ⟨fun service offered version listed => (coherent service offered version listed).1,
        fun service offered version listed => (coherent service offered version listed).2⟩
  · intro accepted service offered version listed text member stray
    have acceptable := load_ok_iff.1 accepted service offered version listed
    exact acceptable.exists_derived member stray

/-- One version with one struct, whose attributes refer to some types. -/
def withAttributes (references : List String) : ModelDescription where
  services := [
    { name := "clusters_mgmt"
      versions := [
        { name := "v1"
          types := [
            { name := "Cluster", form := .struct
              attributes := references.map fun text => { name := "labels", type := text } }] }] }]

/--
The name of the list of strings is no type's, and yet it is accepted behind a
reference to that list.  Before that reference it is not.
-/
theorem load_accepts_stray_name :
    (∃ model, (withAttributes ["[]String", "StringList"]).load = .ok model) ∧
    ¬ (∀ service ∈ (withAttributes ["[]String", "StringList"]).services,
      ∀ version ∈ service.versions, version.Coherent) ∧
    (withAttributes ["StringList", "[]String"]).load =
      .error (.unknownType ⟨"v1"⟩ "StringList") := by
  refine ⟨?_, ?_, by decide +kernel⟩
  · obtain ⟨model, loaded, -⟩ := exists_eq_ok_of_any
      (show (withAttributes ["[]String", "StringList"]).load.toOption.any fun _ => true by
        decide +kernel)
    exact ⟨model, loaded⟩
  · intro coherent
    have grounded : (withAttributes ["[]String", "StringList"]).Grounded :=
      fun service offered version listed => (coherent service offered version listed).references
    revert grounded
    decide +kernel

end VersionedApi.Description
