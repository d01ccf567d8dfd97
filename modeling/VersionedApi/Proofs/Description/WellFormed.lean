import VersionedApi.Proofs.Description.Faithful

/-!
# Loaded versions are well formed

Every number in a loaded version leads to a type or a resource of that version,
and every name in it was made from a text.  That is all of the agreement with
the description that writing a document depends on.
-/

namespace VersionedApi.Model

def Name.Spelled (name : Name) : Prop :=
  ∃ text, name = Name.ofText text

/-- The numbers of a version are in use, and its names are spelled by texts. -/
structure Version.WellFormed (version : Version) : Prop where
  ordered : version.Ordered
  attributes : ∀ type ∈ version.types, ∀ attr ∈ type.kind.attributes,
    attr.name.Spelled ∧ attr.type.index < version.types.length
  parameters : ∀ resource ∈ version.resources, ∀ method ∈ resource.methods,
    ∀ parameter ∈ method.parameters,
      parameter.name.Spelled ∧ parameter.type.index < version.types.length
  locators : ∀ resource ∈ version.resources, ∀ locator ∈ resource.locators,
    (version.resource? locator.target).isSome
  root : ∀ id ∈ version.root, (version.resource? id).isSome

end VersionedApi.Model

namespace VersionedApi.Description

open VersionedApi.Model

theorem attributes_builtins : ∀ type ∈ ApiType.builtins, type.kind.attributes = [] := by
  decide

theorem attributes_of_holds {kind : TypeKind} (holds : kind.element?.isSome) :
    kind.attributes = [] := by
  cases kind with
  | list element => rfl
  | map element => rfl
  | primitive scalar => cases holds
  | interface => cases holds
  | enum values => cases holds
  | struct attributes identified => cases holds

/-- A version that agrees with a description, its references being in use, is well formed. -/
theorem VersionAgrees.wellFormed {service : Name} {description : VersionDescription}
    {version : Version} (agrees : VersionAgrees inUse service description version) :
    version.WellFormed where
  ordered := agrees.ordered
  attributes type present attr member := by
    obtain ⟨declared, derived, layout, agreeTypes, lists⟩ := agrees.types
    rw [layout, List.append_assoc] at present
    rcases List.mem_append.1 present with builtin | present
    · rw [attributes_builtins type builtin] at member
      cases member
    · rcases List.mem_append.1 present with described | list
      · obtain ⟨description, -, agree⟩ := exists_of_mem_right agreeTypes described
        have kind := agree.kind
        cases shape : type.kind with
        | struct attributes identified =>
            rw [shape] at kind member
            cases kind with
            | struct _ _ agreeAttributes =>
                obtain ⟨_, -, agreeAttribute⟩ := exists_of_mem_right agreeAttributes member
                exact ⟨⟨_, agreeAttribute.name⟩, agreeAttribute.type⟩
        | _ => rw [shape] at member; cases member
      · rw [attributes_of_holds (lists type list)] at member
        cases member
  parameters resource present method offered parameter member := by
    obtain ⟨_, -, agreeResource⟩ := exists_of_mem_right agrees.resources present
    obtain ⟨_, -, agreeMethod⟩ := exists_of_mem_right agreeResource.methods offered
    obtain ⟨_, -, agree⟩ := exists_of_mem_right agreeMethod.parameters member
    exact ⟨⟨_, agree.name⟩, agree.type⟩
  locators resource present locator member := by
    obtain ⟨_, -, agreeResource⟩ := exists_of_mem_right agrees.resources present
    obtain ⟨_, -, agree⟩ := exists_of_mem_right agreeResource.locators member
    obtain ⟨target, found, -⟩ := agree.target
    exact Option.isSome_of_mem found
  root id chosen := by
    obtain ⟨resource, found, -⟩ := (agrees.root id).1 chosen
    exact Option.isSome_of_mem found

/-- Every version of a loaded model agrees with one that was described. -/
theorem exists_agrees_of_load {description : ModelDescription} {model : ApiModel}
    (loaded : description.load = .ok model) {version : Version}
    (member : version ∈ model.versions) :
    ∃ service ∈ description.services, ∃ described ∈ service.versions,
      VersionAgrees inUse (Name.ofText service.name) described version := by
  have agrees : ModelAgrees inUse description model :=
    load_agrees sound_inUse (fun _ _ _ _ _ _ => trivial) loaded
  obtain ⟨service, offered, listed⟩ := List.mem_flatMap.1 member
  obtain ⟨describedService, present, agreeService⟩ := exists_of_mem_right agrees offered
  obtain ⟨described, among, agreeVersion⟩ := exists_of_mem_right agreeService.versions listed
  exact ⟨describedService, present, described, among, agreeService.name ▸ agreeVersion⟩

/-- Every version of a loaded model is well formed. -/
theorem load_wellFormed {description : ModelDescription} {model : ApiModel}
    (loaded : description.load = .ok model) {version : Version}
    (member : version ∈ model.versions) : version.WellFormed := by
  obtain ⟨_, -, _, -, agrees⟩ := exists_agrees_of_load loaded member
  exact agrees.wellFormed

end VersionedApi.Description
