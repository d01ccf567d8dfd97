import VersionedApi.Proofs.Description.Soundness

/-!
# Loaded resources

The resources of a version are declared blank and then filled one by one, each
with its methods and its locators.  On the way lists and maps are added to the
types and nothing else happens to them.
-/

namespace VersionedApi.Description

open VersionedApi.Model

variable {reads : Reading} {known : List Name → String → Prop}

/-! ## Progress -/

/-- Loading goes on behind the types, and only types and resources change. -/
structure Advances (named : List ApiType) (before after : Version) : Prop where
  arena : Arena after named
  keeps : Keeps before after
  rest : after = { before with types := after.types, resources := after.resources }

namespace Advances

variable {named : List ApiType} {first second third : Version}

theorem refl (arena : Arena first named) : Advances named first first :=
  ⟨arena, .refl first, rfl⟩

theorem trans (early : Advances named first second) (late : Advances named second third) :
    Advances named first third where
  arena := late.arena
  keeps := early.keeps.trans late.keeps
  rest := by rw [late.rest, early.rest]

theorem of_grows (grows : Grows named first second) : Advances named first second where
  arena := grows.arena
  keeps := grows.keeps
  rest := by rw [grows.rest]

/-- A resource may be changed as long as it keeps its name. -/
theorem modifyResource (arena : Arena first named) (id : ResourceId)
    {change : Resource → Resource} (name : ∀ resource, (change resource).name = resource.name) :
    Advances named first (first.modifyResource id change) where
  arena := { arena with }
  keeps := Keeps.modifyResource first id name
  rest := rfl

end Advances

/-! ## Declaring -/

/-- The resource that stands for a declared one until it is filled. -/
def blank (description : ResourceDescription) : Resource :=
  ⟨Name.ofText description.name, description.doc, [], []⟩

theorem findResource?_isSome_iff {version : Version} {name : Name} :
    (version.findResource? name).isSome ↔ name ∈ version.resources.map (·.name) := by
  simp [Version.findResource?, List.findIdx?_isSome]

theorem resource?_of_findResource? {version : Version} {name : Name} {id : ResourceId}
    (found : version.findResource? name = some id) :
    ∃ resource, version.resource? id = some resource ∧ resource.name = name := by
  obtain ⟨index, first, rfl⟩ := Option.map_eq_some_iff.1 found
  obtain ⟨bound, matched, -⟩ := List.findIdx?_eq_some_iff_getElem.1 first
  exact ⟨_, List.getElem?_eq_getElem bound, by simpa using matched⟩

theorem declareResource_eq_ok_iff {version after : Version} {description : ResourceDescription} :
    declareResource version description = .ok after ↔
      Name.ofText description.name ∉ version.resources.map (·.name) ∧
        after = { version with resources := version.resources ++ [blank description] } := by
  unfold declareResource
  by_cases taken : Name.ofText description.name ∈ version.resources.map (·.name)
  · simp only [findResource?_isSome_iff.2 taken, if_true, taken, not_true, false_and, iff_false]
    exact nofun
  · rw [if_neg (findResource?_isSome_iff.not.2 taken)]
    simp only [taken, not_false_eq_true, true_and, Except.ok.injEq]
    exact eq_comm

/-- Declaring resources appends blank ones, and no name is declared twice. -/
theorem declareResources {descriptions : List ResourceDescription} {version after : Version}
    (distinct : (version.resources.map (·.name)).Nodup)
    (declared : descriptions.foldlM declareResource version = .ok after) :
    after = { version with resources := version.resources ++ descriptions.map blank } ∧
      (after.resources.map (·.name)).Nodup := by
  obtain ⟨rfl, distinctAfter⟩ :=
    declareEach declareResource (Name.ofText ·.name) (·.resources.map (·.name))
      (fun version description =>
        { version with resources := version.resources ++ [blank description] })
      declareResource_eq_ok_iff (fun _ _ => by simp [blank]) distinct declared
  refine ⟨?_, distinctAfter⟩
  clear distinct declared distinctAfter
  induction descriptions generalizing version with
  | nil => simp
  | cons description rest ih => simp [ih]

/-! ## Filling -/

/-- The parameters of a method agree with their descriptions. -/
theorem loadParameters_agree (sound : Sound reads known) {named : List ApiType}
    {descriptions : List ParameterDescription} {version after : Version}
    {parameters : List Parameter} (arena : Arena version named)
    (grounded : ∀ description ∈ descriptions, known (named.map (·.name)) description.type)
    (loaded : loadParameters version descriptions = .ok (after, parameters)) :
    Grows named version after ∧
      List.Forall₂ (ParameterAgrees reads named.length after) descriptions parameters := by
  obtain ⟨grows, agree⟩ :=
    loadEach_agree sound (fun _ => rfl) (fun _ _ _ => rfl) arena grounded loaded
  refine ⟨grows, agree.imp ?_⟩
  rintro description parameter ⟨type, rfl, reading⟩
  exact ⟨rfl, rfl, rfl, reading⟩

section Fill

variable {named : List ApiType} {front rest : List Resource} {version after : Version}

/-- Changing the resource behind `front` leaves all others alone. -/
theorem modifyResource_middle {resource : Resource} (change : Resource → Resource)
    (layout : version.resources = front ++ resource :: rest) :
    (version.modifyResource ⟨front.length⟩ change).resources =
      front ++ change resource :: rest := by
  simp [Version.modifyResource, layout, List.modify_eq_take_drop]

/-- Parts of the resource behind `front` are put into it one by one, and stay in agreement. -/
theorem fillEach {δ α : Type} {load : Version → δ → Except LoadFault Version}
    (put : Resource → α → Resource) (agrees : Version → δ → α → Prop)
    (keep : ∀ {before after description part}, Keeps before after →
      agrees before description part → agrees after description part)
    {descriptions : List δ}
    (step : ∀ {version after resource description}, description ∈ descriptions →
      Arena version named → version.resources = front ++ resource :: rest →
      load version description = .ok after →
      ∃ part, Advances named version after ∧
        after.resources = front ++ put resource part :: rest ∧ agrees after description part)
    {resource : Resource} (arena : Arena version named)
    (layout : version.resources = front ++ resource :: rest)
    (loaded : descriptions.foldlM load version = .ok after) :
    ∃ parts, Advances named version after ∧
      after.resources = front ++ parts.foldl put resource :: rest ∧
      List.Forall₂ (agrees after) descriptions parts := by
  induction descriptions generalizing version resource with
  | nil =>
      simp only [List.foldlM_nil, pure_eq_ok_iff] at loaded
      subst loaded
      exact ⟨[], .refl arena, layout, .nil⟩
  | cons description others ih =>
      rw [List.foldlM_cons, bind_eq_ok_iff] at loaded
      obtain ⟨middle, loadedFirst, loadedRest⟩ := loaded
      obtain ⟨part, early, layoutMiddle, agree⟩ :=
        step List.mem_cons_self arena layout loadedFirst
      obtain ⟨parts, late, layoutAfter, agreeRest⟩ :=
        ih (fun member => step (List.mem_cons_of_mem _ member)) early.arena layoutMiddle loadedRest
      exact ⟨part :: parts, early.trans late, layoutAfter, .cons (keep late.keeps agree) agreeRest⟩

theorem loadMethod_agrees (sound : Sound reads known) {description : MethodDescription}
    {resource : Resource}
    (grounded : ∀ parameter ∈ description.parameters,
      known (named.map (·.name)) parameter.type)
    (arena : Arena version named) (layout : version.resources = front ++ resource :: rest)
    (loaded : loadMethod ⟨front.length⟩ version description = .ok after) :
    ∃ method, Advances named version after ∧
      after.resources =
        front ++ { resource with methods := resource.methods ++ [method] } :: rest ∧
      MethodAgrees reads named.length after description method := by
  obtain ⟨⟨grown, parameters⟩, loadedParameters, result⟩ := bind_eq_ok_iff.1 loaded
  obtain ⟨grows, agree⟩ := loadParameters_agree sound arena grounded loadedParameters
  rw [pure_eq_ok_iff] at result
  subst result
  let method : Method := ⟨Name.ofText description.name, description.doc, parameters⟩
  have added : Advances named grown (grown.addMethod ⟨front.length⟩ method) :=
    .modifyResource grows.arena _ fun _ => rfl
  refine ⟨method, (Advances.of_grows grows).trans added,
    modifyResource_middle _ (grows.resources_eq.trans layout), rfl, rfl, ?_⟩
  exact agree.imp fun _ _ => ParameterAgrees.keep sound added.keeps

/-- The methods of a resource are appended one by one, and agree with their descriptions. -/
theorem loadMethods_agree (sound : Sound reads known) {descriptions : List MethodDescription}
    {resource : Resource} (arena : Arena version named)
    (layout : version.resources = front ++ resource :: rest)
    (grounded : ∀ description ∈ descriptions, ∀ parameter ∈ description.parameters,
      known (named.map (·.name)) parameter.type)
    (loaded : descriptions.foldlM (loadMethod ⟨front.length⟩) version = .ok after) :
    ∃ methods, Advances named version after ∧
      after.resources =
        front ++ { resource with methods := resource.methods ++ methods } :: rest ∧
      List.Forall₂ (MethodAgrees reads named.length after) descriptions methods := by
  obtain ⟨methods, advances, layoutAfter, agree⟩ :=
    fillEach (fun resource method => { resource with methods := resource.methods ++ [method] })
      (MethodAgrees reads named.length) (fun keeps agrees => agrees.keep sound keeps)
      (fun member => loadMethod_agrees sound (grounded _ member)) arena layout loaded
  have filled : methods.foldl (fun resource method =>
      { resource with methods := resource.methods ++ [method] }) resource =
        { resource with methods := resource.methods ++ methods } := by
    clear agree layoutAfter layout
    induction methods generalizing resource with
    | nil => simp
    | cons method others ih => simp [ih]
  exact ⟨methods, advances, filled ▸ layoutAfter, agree⟩

theorem loadLocator_agrees {description : LocatorDescription} {resource : Resource}
    (arena : Arena version named) (layout : version.resources = front ++ resource :: rest)
    (loaded : loadLocator ⟨front.length⟩ version description = .ok after) :
    ∃ locator, Advances named version after ∧
      after.resources =
        front ++ { resource with locators := resource.locators ++ [locator] } :: rest ∧
      LocatorAgrees after description locator := by
  unfold loadLocator at loaded
  cases search : version.findResource? (Name.ofText description.target) with
  | none => simp [search] at loaded
  | some target =>
      simp only [search, Except.ok.injEq] at loaded
      subst loaded
      let locator : Locator :=
        ⟨Name.ofText description.name, description.doc, description.isVariable, target⟩
      have added : Advances named version (version.addLocator ⟨front.length⟩ locator) :=
        .modifyResource arena _ fun _ => rfl
      have agrees : LocatorAgrees version description locator :=
        ⟨rfl, rfl, rfl, resource?_of_findResource? search⟩
      exact ⟨locator, added, modifyResource_middle _ layout, agrees.keep added.keeps⟩

/-- The locators of a resource are appended one by one, and agree with their descriptions. -/
theorem loadLocators_agree {descriptions : List LocatorDescription} {resource : Resource}
    (arena : Arena version named) (layout : version.resources = front ++ resource :: rest)
    (loaded : descriptions.foldlM (loadLocator ⟨front.length⟩) version = .ok after) :
    ∃ locators, Advances named version after ∧
      after.resources =
        front ++ { resource with locators := resource.locators ++ locators } :: rest ∧
      List.Forall₂ (LocatorAgrees after) descriptions locators := by
  obtain ⟨locators, advances, layoutAfter, agree⟩ :=
    fillEach (fun resource locator => { resource with locators := resource.locators ++ [locator] })
      LocatorAgrees (fun keeps agrees => agrees.keep keeps) (fun _ => loadLocator_agrees) arena
      layout loaded
  have filled : locators.foldl (fun resource locator =>
      { resource with locators := resource.locators ++ [locator] }) resource =
        { resource with locators := resource.locators ++ locators } := by
    clear agree layoutAfter layout
    induction locators generalizing resource with
    | nil => simp
    | cons locator others ih => simp [ih]
  exact ⟨locators, advances, filled ▸ layoutAfter, agree⟩

/-- A blank resource is filled with its methods and then with its locators. -/
theorem fillResource_agrees (sound : Sound reads known) {description : ResourceDescription}
    (arena : Arena version named)
    (layout : version.resources = front ++ blank description :: rest)
    (grounded : ∀ method ∈ description.methods, ∀ parameter ∈ method.parameters,
      known (named.map (·.name)) parameter.type)
    (filled : fillResource version (description, front.length) = .ok after) :
    ∃ resource, Advances named version after ∧ after.resources = front ++ resource :: rest ∧
      ResourceAgrees reads named.length after description resource := by
  obtain ⟨middle, loadedMethods, loadedLocators⟩ := bind_eq_ok_iff.1 filled
  obtain ⟨methods, early, layoutMiddle, agreeMethods⟩ :=
    loadMethods_agree sound arena layout grounded loadedMethods
  obtain ⟨locators, late, layoutAfter, agreeLocators⟩ :=
    loadLocators_agree early.arena layoutMiddle loadedLocators
  refine ⟨_, early.trans late, layoutAfter, rfl, rfl, ?_, by simpa [blank] using agreeLocators⟩
  exact (by simpa [blank] using agreeMethods : List.Forall₂ _ _ _).imp
    fun _ _ => MethodAgrees.keep sound late.keeps

end Fill

/-- Filling all declared resources makes them agree with their descriptions, one for one. -/
theorem fillResources_agree (sound : Sound reads known) {named : List ApiType}
    {front : List Resource} {descriptions : List ResourceDescription} {version after : Version}
    (arena : Arena version named) (layout : version.resources = front ++ descriptions.map blank)
    (grounded : ∀ description ∈ descriptions, ∀ method ∈ description.methods,
      ∀ parameter ∈ method.parameters, known (named.map (·.name)) parameter.type)
    (filled : (descriptions.zipIdx front.length).foldlM fillResource version = .ok after) :
    ∃ resources, Advances named version after ∧ after.resources = front ++ resources ∧
      List.Forall₂ (ResourceAgrees reads named.length after) descriptions resources := by
  induction descriptions generalizing front version with
  | nil =>
      simp only [List.zipIdx_nil, List.foldlM_nil, pure_eq_ok_iff] at filled
      subst filled
      exact ⟨[], .refl arena, layout, .nil⟩
  | cons description rest ih =>
      rw [List.zipIdx_cons, List.foldlM_cons, bind_eq_ok_iff] at filled
      obtain ⟨middle, filledFirst, filledRest⟩ := filled
      obtain ⟨resource, early, layoutMiddle, agrees⟩ :=
        fillResource_agrees sound arena layout (grounded description List.mem_cons_self)
          filledFirst
      have shifted : middle.resources = (front ++ [resource]) ++ rest.map blank := by
        simpa using layoutMiddle
      obtain ⟨resources, late, layoutAfter, agreeRest⟩ :=
        ih early.arena shifted
          (fun other member => grounded other (List.mem_cons_of_mem _ member))
          (by simpa using filledRest)
      exact ⟨resource :: resources, early.trans late, by simpa using layoutAfter,
        .cons (agrees.keep sound late.keeps) agreeRest⟩

/-! ## All resources of a version -/

/-- The resources of a version agree with their descriptions, and no two have one name. -/
theorem loadResources_agree (sound : Sound reads known) {named : List ApiType}
    {version after : Version} {descriptions : List ResourceDescription}
    (arena : Arena version named) (resources : version.resources = [])
    (grounded : ∀ description ∈ descriptions, ∀ method ∈ description.methods,
      ∀ parameter ∈ method.parameters, known (named.map (·.name)) parameter.type)
    (loaded : loadResources version descriptions = .ok after) :
    Advances named version after ∧
      List.Forall₂ (ResourceAgrees reads named.length after) descriptions after.resources ∧
      (after.resources.map (·.name)).Nodup := by
  obtain ⟨middle, declaredAll, filled⟩ := bind_eq_ok_iff.1 loaded
  have distinct : (version.resources.map (·.name)).Nodup := by
    rw [resources]
    exact List.nodup_nil
  obtain ⟨same, distinctMiddle⟩ := declareResources distinct declaredAll
  have layout : middle.resources = [] ++ descriptions.map blank := by
    rw [same, resources]
  have declared : Advances named version middle := by
    rw [same]
    exact ⟨{ arena with }, Keeps.of_extended (List.prefix_refl _) (List.prefix_append _ _), rfl⟩
  rw [resources] at filled
  obtain ⟨filledResources, advances, layoutAfter, agree⟩ :=
    fillResources_agree sound declared.arena layout grounded filled
  rw [List.nil_append] at layoutAfter
  refine ⟨declared.trans advances, layoutAfter ▸ agree, ?_⟩
  rw [layoutAfter, map_eq_of_forall₂ (·.name) agree]
  simpa [layout, blank, Function.comp_def] using distinctMiddle

/-- Where no two resources have one name, a resource is found by its name. -/
theorem findResource?_eq_some_iff {version : Version}
    (distinct : (version.resources.map (·.name)).Nodup) {name : Name} {id : ResourceId} :
    version.findResource? name = some id ↔
      ∃ resource, version.resource? id = some resource ∧ resource.name = name := by
  constructor
  · exact resource?_of_findResource?
  · rintro ⟨resource, found, rfl⟩
    have member : resource.name ∈ version.resources.map (·.name) :=
      List.mem_map_of_mem (List.mem_of_getElem? found)
    obtain ⟨other, search⟩ := Option.isSome_iff_exists.1 (findResource?_isSome_iff.2 member)
    obtain ⟨namesake, foundOther, name⟩ := resource?_of_findResource? search
    have bound : other.index < (version.resources.map (·.name)).length := by
      simpa using (List.getElem?_eq_some_iff.1 foundOther).1
    have same : other.index = id.index := by
      refine (List.getElem?_inj bound distinct).1 ?_
      rw [List.getElem?_map, List.getElem?_map]
      rw [Version.resource?] at found foundOther
      simp [found, foundOther, name]
    rw [search, show other = id by cases other; cases id; simpa using same]

end VersionedApi.Description
