import VersionedApi.Proofs.Description.LoadedResources
import VersionedApi.Proofs.Description.LoadedTypes

/-!
# Loading is faithful

A version is loaded types first, then resources, then its root.  Main
statement: a model that was loaded from a description whose references are
grounded agrees with the description, and each number in it spells the
reference it stands for.
-/

namespace VersionedApi.Description

open VersionedApi.Model

variable {reads : Reading} {known : List Name → String → Prop}

theorem chooseRoot_eq {version : Version} (noRoot : version.root = none) :
    chooseRoot version = { version with root := version.findResource? rootName } := by
  unfold chooseRoot
  cases search : version.findResource? rootName with
  | none => cases version; cases noRoot; rfl
  | some id => rfl

/-! ## References of a version -/

section References

variable {description : VersionDescription}

theorem mem_references_of_attribute {type : TypeDescription} (member : type ∈ description.types)
    (notEnum : type.form ≠ .enum) {attr : AttributeDescription}
    (inside : attr ∈ type.attributes) : attr.type ∈ description.references := by
  refine List.mem_append_left _ (List.mem_flatMap.2 ⟨type, ?_, List.mem_map_of_mem inside⟩)
  simpa using ⟨member, notEnum⟩

theorem mem_references_of_parameter {resource : ResourceDescription}
    (member : resource ∈ description.resources) {method : MethodDescription}
    (inside : method ∈ resource.methods) {parameter : ParameterDescription}
    (among : parameter ∈ method.parameters) : parameter.type ∈ description.references := by
  refine List.mem_append_right _ (List.mem_flatMap.2 ⟨resource, member, ?_⟩)
  exact List.mem_flatMap.2 ⟨method, inside, List.mem_map_of_mem among⟩

end References

/-- The types behind the named ones are lists and maps. -/
theorem Arena.holds_of_mem_derived {version : Version} {named derived : List ApiType}
    (arena : Arena version named) (layout : version.types = named ++ derived) {type : ApiType}
    (member : type ∈ derived) : type.kind.element?.isSome := by
  obtain ⟨place, bound, rfl⟩ := List.mem_iff_getElem.1 member
  refine arena.derived ⟨named.length + place⟩ _ ?_ (Nat.le_add_right _ _)
  rw [Version.type?, layout, List.getElem?_append_right (Nat.le_add_right _ _)]
  simp

/-! ## Versions and models -/

/-- A version that was loaded agrees with its description. -/
theorem loadVersion_agrees (sound : Sound reads known) {service : Name}
    {description : VersionDescription} {version : Version}
    (grounded : ∀ text ∈ description.references, known description.typeNames text)
    (loaded : loadVersion service description = .ok version) :
    VersionAgrees reads service description version := by
  obtain ⟨typed, loadedTypes, loaded⟩ := bind_eq_ok_iff.1 loaded
  obtain ⟨filled, loadedResources, result⟩ := bind_eq_ok_iff.1 loaded
  rw [pure_eq_ok_iff] at result
  have placeholderNames : (ApiType.builtins ++ description.types.map placeholder).map (·.name) =
      description.typeNames := by
    simp [VersionDescription.typeNames, placeholder, Function.comp_def]
  obtain ⟨declared, arena, sameTyped, agreeTypes, typeNames⟩ :=
    loadTypes_agree sound rfl
      (fun type member notEnum attr inside =>
        placeholderNames ▸ grounded _ (mem_references_of_attribute member notEnum inside))
      loadedTypes
  have count : 7 + description.types.length = description.typeNames.length := by
    simp [VersionDescription.typeNames, ApiType.length_builtins]
  rw [count] at agreeTypes
  have declaredNames : (ApiType.builtins ++ declared).map (·.name) = description.typeNames := by
    rw [List.map_append, map_eq_of_forall₂ (·.name) agreeTypes]
    rfl
  have named : (ApiType.builtins ++ declared).length = description.typeNames.length := by
    rw [← declaredNames, List.length_map]
  obtain ⟨advances, agreeResources, resourceNames⟩ :=
    loadResources_agree sound arena (by rw [sameTyped]; rfl)
      (fun resource member method inside parameter among =>
        declaredNames ▸ grounded _ (mem_references_of_parameter member inside among))
      loadedResources
  rw [named] at agreeResources
  have start : filled.service = service ∧ filled.name = Name.ofText description.name ∧
      filled.doc = description.doc ∧ filled.root = none := by
    rw [advances.rest, sameTyped]
    exact ⟨rfl, rfl, rfl, rfl⟩
  rw [chooseRoot_eq start.2.2.2] at result
  subst result
  have keepsRoot : Keeps filled { filled with root := filled.findResource? rootName } :=
    .of_extended (List.prefix_refl _) (List.prefix_refl _)
  obtain ⟨derived, layout⟩ := advances.arena.leads
  exact
    { service := start.1
      name := start.2.1
      doc := start.2.2.1
      types := ⟨declared, derived, layout.symm,
        agreeTypes.imp fun _ _ => TypeAgrees.keep sound (advances.keeps.trans keepsRoot),
        fun type member => advances.arena.holds_of_mem_derived layout.symm member⟩
      ordered := advances.arena.ordered
      typeNames := placeholderNames ▸ typeNames
      resources := agreeResources.imp fun _ _ => ResourceAgrees.keep sound keepsRoot
      resourceNames := resourceNames
      root := fun id => findResource?_eq_some_iff resourceNames }

/-- A model that was loaded agrees with its description. -/
theorem load_agrees (sound : Sound reads known) {description : ModelDescription}
    {model : ApiModel}
    (grounded : ∀ service ∈ description.services, ∀ version ∈ service.versions,
      ∀ text ∈ version.references, known version.typeNames text)
    (loaded : description.load = .ok model) : ModelAgrees reads description model := by
  obtain ⟨services, loadedServices, result⟩ := bind_eq_ok_iff.1 loaded
  rw [pure_eq_ok_iff] at result
  subst result
  have agree := (List.forall₂_and_left _ _).2 ⟨grounded, mapM_eq_ok_iff.1 loadedServices⟩
  refine agree.imp ?_
  rintro service loadedService ⟨groundedService, loaded⟩
  obtain ⟨versions, loadedVersions, result⟩ := bind_eq_ok_iff.1 loaded
  rw [pure_eq_ok_iff] at result
  subst result
  have agreeVersions :=
    (List.forall₂_and_left _ _).2 ⟨groundedService, mapM_eq_ok_iff.1 loadedVersions⟩
  refine ⟨rfl, rfl, agreeVersions.imp ?_⟩
  rintro version loadedVersion ⟨groundedVersion, loaded⟩
  exact loadVersion_agrees sound groundedVersion loaded

/--
Loading preserves the meaning of a description: if all its references are
grounded, the model has what was described, one for one and in order, and every
number in it spells the reference that was written.
-/
theorem load_faithful {description : ModelDescription} {model : ApiModel}
    (loaded : description.load = .ok model) (grounded : description.Grounded) :
    ModelAgrees denotation description model :=
  load_agrees sound_denotation grounded loaded

/--
References to a type declared later, to the type being defined, and to a
declared type whose name the list of strings is given as well.
-/
def entangled : ModelDescription where
  services := [
    { name := "clusters_mgmt"
      versions := [
        { name := "v1"
          types := [
            { name := "Cluster", form := .identified
              attributes := [
                { name := "state", type := " [] map[string] ClusterState " },
                { name := "parents", type := "[]Cluster" },
                { name := "labels", type := "[]String" },
                { name := "tags", type := "StringList" }] },
            { name := "StringList", form := .struct },
            { name := "ClusterState", form := .enum, values := [{ name := "ready" }] }]
          resources := [
            { name := "root"
              methods := [
                { name := "get", parameters := [{ name := "body", type := "[]StringList" }] }]
              locators := [{ name := "again", target := "Root", isVariable := true }] }] }] }]

theorem load_faithful_entangled : ∃ model, entangled.load = .ok model ∧ entangled.Grounded ∧
    ModelAgrees denotation entangled model := by
  have grounded : entangled.Grounded := by decide +kernel
  obtain ⟨model, loaded, -⟩ :=
    exists_eq_ok_of_any (show entangled.load.toOption.any fun _ => true by decide +kernel)
  exact ⟨model, loaded, grounded, load_faithful loaded grounded⟩

end VersionedApi.Description
