import VersionedApi.Model.Resources

/-!
# Versions

A version of a service owns its types and its resources.  Types are only ever
appended or replaced in place, so a number stays valid; list and map types are
found again by their kind rather than declared twice.
-/

namespace VersionedApi.Model

structure Version where
  service : Name
  name : Name
  doc : String
  types : List ApiType
  resources : List Resource
  root : Option ResourceId
  deriving Repr, DecidableEq

namespace Version

/-- A version that holds nothing but the built-in types. -/
def empty (service name : Name) : Version :=
  ⟨service, name, "", ApiType.builtins, [], none⟩

/-! ## Types -/

/-- The type with a number, unless the number dangles. -/
def type? (version : Version) (id : TypeId) : Option ApiType :=
  version.types[id.index]?

def primitive (scalar : Primitive) : TypeId :=
  ⟨Primitive.all.idxOf scalar⟩

/-- The number of the built-in interface, which follows the scalars. -/
def interface : TypeId :=
  ⟨Primitive.all.length⟩

/-- Append a type; its number is the count of the types before it. -/
def addType (version : Version) (type : ApiType) : Version × TypeId :=
  ({ version with types := version.types ++ [type] }, ⟨version.types.length⟩)

/-- Replace the type with a number.  A number that dangles changes nothing. -/
def setType (version : Version) (id : TypeId) (type : ApiType) : Version :=
  { version with types := version.types.set id.index type }

def findType? (version : Version) (name : Name) : Option TypeId :=
  (version.types.findIdx? (·.name == name)).map TypeId.mk

def findKind? (version : Version) (kind : TypeKind) : Option TypeId :=
  (version.types.findIdx? (·.kind == kind)).map TypeId.mk

/-- The name that a list or map type is given: the name of its element and a suffix. -/
def derivedName (version : Version) (element : TypeId) (suffix : String) : Name :=
  let stem := ((version.type? element).map (·.name.snake)).getD ""
  Name.ofText (stem ++ "_" ++ suffix)

/-- The type of a kind, appended if there is none yet. -/
def intern (version : Version) (element : TypeId) (kind : TypeKind) (suffix : String) :
    Version × TypeId :=
  match version.findKind? kind with
  | some id => (version, id)
  | none => version.addType ⟨version.derivedName element suffix, "", kind⟩

def listOf (version : Version) (element : TypeId) : Version × TypeId :=
  version.intern element (.list element) "list"

def mapOf (version : Version) (element : TypeId) : Version × TypeId :=
  version.intern element (.map element) "map"

/-- Every type with its number, the built-in ones first. -/
def numberedTypes (version : Version) : List (TypeId × ApiType) :=
  version.types.zipIdx.map fun (type, index) => (⟨index⟩, type)

def schemaTypes (version : Version) : List ApiType :=
  version.types.filter (·.kind.hasSchema)

theorem type?_addType (version : Version) (type : ApiType) :
    (version.addType type).1.type? (version.addType type).2 = some type := by
  simp [addType, type?]

theorem type?_addType_of_type? {version : Version} {id : TypeId} {old type : ApiType}
    (found : version.type? id = some old) :
    (version.addType type).1.type? id = some old := by
  have bound := (List.getElem?_eq_some_iff.1 found).1
  simpa [addType, type?, List.getElem?_append_left bound] using found

/-! ## Resources -/

def resource? (version : Version) (id : ResourceId) : Option Resource :=
  version.resources[id.index]?

def addResource (version : Version) (resource : Resource) : Version × ResourceId :=
  ({ version with resources := version.resources ++ [resource] }, ⟨version.resources.length⟩)

/-- Change the resource with a number.  A number that dangles changes nothing. -/
def modifyResource (version : Version) (id : ResourceId) (change : Resource → Resource) :
    Version :=
  { version with resources := version.resources.modify id.index change }

def addMethod (version : Version) (id : ResourceId) (method : Method) : Version :=
  version.modifyResource id fun resource =>
    { resource with methods := resource.methods ++ [method] }

def addLocator (version : Version) (id : ResourceId) (locator : Locator) : Version :=
  version.modifyResource id fun resource =>
    { resource with locators := resource.locators ++ [locator] }

def findResource? (version : Version) (name : Name) : Option ResourceId :=
  (version.resources.findIdx? (·.name == name)).map ResourceId.mk

def numberedResources (version : Version) : List (ResourceId × Resource) :=
  version.resources.zipIdx.map fun (resource, index) => (⟨index⟩, resource)

def setRoot (version : Version) (id : ResourceId) : Version :=
  { version with root := some id }

end Version

/-! ## Services -/

structure Service where
  name : Name
  doc : String
  versions : List Version
  deriving Repr, DecidableEq

structure ApiModel where
  services : List Service
  deriving Repr, DecidableEq, Inhabited

/-- Every version of every service, in order. -/
def ApiModel.versions (model : ApiModel) : List Version :=
  model.services.flatMap (·.versions)

end VersionedApi.Model
