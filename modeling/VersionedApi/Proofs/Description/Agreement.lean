import VersionedApi.Proofs.Description.Denotation

/-!
# Descriptions and models that agree

A model agrees with a description if its parts are the described ones, one for
one and in order, and all that a description refers to by name is referred to
by a number of a thing of that name.  How a reference to a type is read is left
open here.
-/

namespace VersionedApi.Description

open VersionedApi.Model

/-- When the text of a reference and a number agree, the first `count` types being named. -/
abbrev Reading := (count : Nat) → Version → String → TypeId → Prop

/-- The reading by which a number spells the reference. -/
def denotation : Reading :=
  fun count version text id => Denotes count version text.toList id

/-- The reading by which a number is merely in use. -/
def inUse : Reading :=
  fun _ version _ id => id.index < version.types.length

/-- The names of the types that are built in or declared, in the order of their numbers. -/
def VersionDescription.typeNames (description : VersionDescription) : List Name :=
  ApiType.builtins.map (·.name) ++ description.types.map (Name.ofText ·.name)

/-- The references to types that a version is loaded by; those of an enum are ignored. -/
def VersionDescription.references (description : VersionDescription) : List String :=
  (description.types.filter (·.form ≠ .enum)).flatMap (fun type => type.attributes.map (·.type)) ++
    description.resources.flatMap fun resource =>
      resource.methods.flatMap fun method => method.parameters.map (·.type)

def baseName (text : String) : Name :=
  Name.ofText (String.ofList (TypeReference.ofText text).base)

/-- Every reference ends at the name of a type that is built in or declared in its version. -/
def ModelDescription.Grounded (description : ModelDescription) : Prop :=
  ∀ service ∈ description.services, ∀ version ∈ service.versions,
    ∀ text ∈ version.references, baseName text ∈ version.typeNames

instance (description : ModelDescription) : Decidable description.Grounded := by
  unfold ModelDescription.Grounded; infer_instance

/-! ## Lists that agree -/

section Lists

variable {α β γ : Type} {agree : α → β → Prop} {xs : List α} {ys : List β}

/-- What is read off both sides alike is the same list. -/
theorem map_eq_of_forall₂ {left : α → γ} {right : β → γ}
    (same : ∀ {x y}, agree x y → right y = left x)
    (agrees : List.Forall₂ agree xs ys) : ys.map right = xs.map left := by
  induction agrees with
  | nil => rfl
  | cons first _ ih => rw [List.map_cons, List.map_cons, same first, ih]

/-- Each member on the right agrees with one on the left. -/
theorem exists_of_mem_right (agrees : List.Forall₂ agree xs ys) {y : β} (member : y ∈ ys) :
    ∃ x ∈ xs, agree x y := by
  induction agrees with
  | nil => cases member
  | cons first _ ih =>
      rcases List.mem_cons.1 member with rfl | later
      · exact ⟨_, List.mem_cons_self, first⟩
      · obtain ⟨x, present, agrees⟩ := ih later
        exact ⟨x, List.mem_cons_of_mem _ present, agrees⟩

end Lists

/-! ## Types -/

structure ValueAgrees (description : ValueDescription) (value : EnumValue) : Prop where
  name : value.name = Name.ofText description.name
  doc : value.doc = description.doc

structure AttributeAgrees (reads : Reading) (count : Nat) (version : Version)
    (description : AttributeDescription) (attr : Attribute) : Prop where
  name : attr.name = Name.ofText description.name
  doc : attr.doc = description.doc
  type : reads count version description.type attr.type

/-- An enum has the described values, a struct the described attributes. -/
inductive KindAgrees (reads : Reading) (count : Nat) (version : Version)
    (description : TypeDescription) : TypeKind → Prop where
  | enum {values : List EnumValue} (form : description.form = .enum)
      (agree : List.Forall₂ ValueAgrees description.values values) :
      KindAgrees reads count version description (.enum values)
  | struct {attributes : List Attribute} {identified : Bool} (form : description.form ≠ .enum)
      (class_iff : identified = true ↔ description.form = .identified)
      (agree : List.Forall₂ (AttributeAgrees reads count version) description.attributes
        attributes) :
      KindAgrees reads count version description (.struct attributes identified)

structure TypeAgrees (reads : Reading) (count : Nat) (version : Version)
    (description : TypeDescription) (type : ApiType) : Prop where
  name : type.name = Name.ofText description.name
  doc : type.doc = description.doc
  kind : KindAgrees reads count version description type.kind

/-! ## Resources -/

structure ParameterAgrees (reads : Reading) (count : Nat) (version : Version)
    (description : ParameterDescription) (parameter : Parameter) : Prop where
  name : parameter.name = Name.ofText description.name
  doc : parameter.doc = description.doc
  direction : parameter.direction = description.direction
  type : reads count version description.type parameter.type

structure MethodAgrees (reads : Reading) (count : Nat) (version : Version)
    (description : MethodDescription) (method : Method) : Prop where
  name : method.name = Name.ofText description.name
  doc : method.doc = description.doc
  parameters : List.Forall₂ (ParameterAgrees reads count version) description.parameters
    method.parameters

/-- A locator leads to a resource with the name that its description gives. -/
structure LocatorAgrees (version : Version) (description : LocatorDescription)
    (locator : Locator) : Prop where
  name : locator.name = Name.ofText description.name
  doc : locator.doc = description.doc
  isVariable : locator.isVariable = description.isVariable
  target : ∃ resource, version.resource? locator.target = some resource ∧
    resource.name = Name.ofText description.target

structure ResourceAgrees (reads : Reading) (count : Nat) (version : Version)
    (description : ResourceDescription) (resource : Resource) : Prop where
  name : resource.name = Name.ofText description.name
  doc : resource.doc = description.doc
  methods : List.Forall₂ (MethodAgrees reads count version) description.methods resource.methods
  locators : List.Forall₂ (LocatorAgrees version) description.locators resource.locators

/-! ## The whole -/

/--
A version holds the built-in types, the declared ones and, behind them, lists
and maps of earlier types.  No two named types share a name, nor do two
resources, and the root is the resource with the name of roots.
-/
structure VersionAgrees (reads : Reading) (service : Name) (description : VersionDescription)
    (version : Version) : Prop where
  service : version.service = service
  name : version.name = Name.ofText description.name
  doc : version.doc = description.doc
  types : ∃ declared derived, version.types = ApiType.builtins ++ declared ++ derived ∧
    List.Forall₂ (TypeAgrees reads description.typeNames.length version) description.types
      declared ∧
    ∀ type ∈ derived, type.kind.element?.isSome
  ordered : version.Ordered
  typeNames : description.typeNames.Nodup
  resources : List.Forall₂ (ResourceAgrees reads description.typeNames.length version)
    description.resources version.resources
  resourceNames : (version.resources.map (·.name)).Nodup
  root : ∀ id, version.root = some id ↔
    ∃ resource, version.resource? id = some resource ∧ resource.name = rootName

structure ServiceAgrees (reads : Reading) (description : ServiceDescription)
    (service : Service) : Prop where
  name : service.name = Name.ofText description.name
  doc : service.doc = description.doc
  versions : List.Forall₂ (VersionAgrees reads service.name) description.versions service.versions

/-- A model has the described services, one for one and in order. -/
def ModelAgrees (reads : Reading) (description : ModelDescription) (model : ApiModel) : Prop :=
  List.Forall₂ (ServiceAgrees reads) description.services model.services

end VersionedApi.Description
