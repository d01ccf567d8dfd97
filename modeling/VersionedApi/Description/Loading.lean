import VersionedApi.Description.Shape
import VersionedApi.Description.TypeReference

/-!
# Loading a description

Names become numbers.  All types of a version are declared before any of them
is defined, and all resources before any of their locators, so that a name may
be used before the place where it is introduced.
-/

namespace VersionedApi.Description

open VersionedApi.Model

/-- Why a description is no model. -/
inductive LoadFault where
  | unknownType (version : Name) (reference : String)
  | unknownResource (version : Name) (resource : String)
  | repeatedType (version : Name) (type : String)
  | repeatedResource (version : Name) (resource : String)
  deriving Repr, DecidableEq

/-- The wording of a fault; names that are at fault appear as they were written. -/
def LoadFault.message : LoadFault → String
  | unknownType version reference =>
    "unknown type '" ++ reference ++ "' in version '" ++ version.snake ++ "'"
  | unknownResource version resource =>
    "unknown resource '" ++ resource ++ "' in version '" ++ version.snake ++ "'"
  | repeatedType version type =>
    "duplicate type '" ++ type ++ "' in version '" ++ version.snake ++ "'"
  | repeatedResource version resource =>
    "duplicate resource '" ++ resource ++ "' in version '" ++ version.snake ++ "'"

def rootName : Name :=
  Name.ofText "root"

/-! ## Types -/

def resolveType (version : Version) (text : String) : Except LoadFault (Version × TypeId) :=
  ((TypeReference.ofText text).resolve version).mapError (.unknownType version.name)

/-- Declare a type, for the time being as an enum without values. -/
def declareType (version : Version) (description : TypeDescription) : Except LoadFault Version :=
  let name := Name.ofText description.name
  if (version.findType? name).isSome then
    .error (.repeatedType version.name description.name)
  else .ok (version.addType ⟨name, "", .enum []⟩).1

def loadValue (description : ValueDescription) : EnumValue :=
  ⟨Name.ofText description.name, description.doc⟩

def loadAttributes (version : Version) :
    List AttributeDescription → Except LoadFault (Version × List Attribute)
  | [] => .ok (version, [])
  | description :: rest => do
    let (version, type) ← resolveType version description.type
    let (version, others) ← loadAttributes version rest
    return (version, ⟨Name.ofText description.name, description.doc, type⟩ :: others)

def loadKind (version : Version) (description : TypeDescription) :
    Except LoadFault (Version × TypeKind) :=
  match description.form with
  | .enum => .ok (version, .enum (description.values.map loadValue))
  | form => do
    let (version, attributes) ← loadAttributes version description.attributes
    return (version, .struct attributes (form = .identified))

def defineType (version : Version) (numbered : TypeDescription × Nat) :
    Except LoadFault Version := do
  let (description, index) := numbered
  let (version, kind) ← loadKind version description
  return version.setType ⟨index⟩ ⟨Name.ofText description.name, description.doc, kind⟩

/-- The types of a version, whose numbers follow those of the types that are there. -/
def loadTypes (version : Version) (descriptions : List TypeDescription) :
    Except LoadFault Version := do
  let declared ← descriptions.foldlM declareType version
  (descriptions.zipIdx version.types.length).foldlM defineType declared

/-! ## Resources -/

/-- Declare a resource, for the time being without methods and locators. -/
def declareResource (version : Version) (description : ResourceDescription) :
    Except LoadFault Version :=
  let name := Name.ofText description.name
  if (version.findResource? name).isSome then
    .error (.repeatedResource version.name description.name)
  else .ok (version.addResource ⟨name, description.doc, [], []⟩).1

def loadParameters (version : Version) :
    List ParameterDescription → Except LoadFault (Version × List Parameter)
  | [] => .ok (version, [])
  | description :: rest => do
    let (version, type) ← resolveType version description.type
    let (version, others) ← loadParameters version rest
    let parameter :=
      ⟨Name.ofText description.name, description.doc, description.direction, type⟩
    return (version, parameter :: others)

def loadMethod (id : ResourceId) (version : Version) (description : MethodDescription) :
    Except LoadFault Version := do
  let (version, parameters) ← loadParameters version description.parameters
  return version.addMethod id ⟨Name.ofText description.name, description.doc, parameters⟩

def loadLocator (id : ResourceId) (version : Version) (description : LocatorDescription) :
    Except LoadFault Version :=
  match version.findResource? (Name.ofText description.target) with
  | none => .error (.unknownResource version.name description.target)
  | some target =>
    .ok (version.addLocator id
      ⟨Name.ofText description.name, description.doc, description.isVariable, target⟩)

/-- Fill the resource that was declared under a number: its methods, then its locators. -/
def fillResource (version : Version) (numbered : ResourceDescription × Nat) :
    Except LoadFault Version := do
  let (description, index) := numbered
  let version ← description.methods.foldlM (loadMethod ⟨index⟩) version
  description.locators.foldlM (loadLocator ⟨index⟩) version

def loadResources (version : Version) (descriptions : List ResourceDescription) :
    Except LoadFault Version := do
  let declared ← descriptions.foldlM declareResource version
  (descriptions.zipIdx version.resources.length).foldlM fillResource declared

/-! ## The whole -/

/-- The root of a version is the resource of that name, if there is one. -/
def chooseRoot (version : Version) : Version :=
  match version.findResource? rootName with
  | none => version
  | some id => version.setRoot id

def loadVersion (service : Name) (description : VersionDescription) :
    Except LoadFault Version := do
  let start := { Version.empty service (Name.ofText description.name) with doc := description.doc }
  let typed ← loadTypes start description.types
  let filled ← loadResources typed description.resources
  return chooseRoot filled

def loadService (description : ServiceDescription) : Except LoadFault Service := do
  let name := Name.ofText description.name
  let versions ← description.versions.mapM (loadVersion name)
  return ⟨name, description.doc, versions⟩

def ModelDescription.load (description : ModelDescription) : Except LoadFault ApiModel := do
  let services ← description.services.mapM loadService
  return ⟨services⟩

end VersionedApi.Description
