import VersionedApi.Model.Resources

/-!
# Descriptions of models

What an author writes: services with their versions, and in each version types
and resources that refer to each other by name.  Nothing here says that the
names lead anywhere.
-/

namespace VersionedApi.Description

open VersionedApi.Model

inductive TypeForm where
  | enum
  | struct
  /-- A struct that can also travel as a link. -/
  | identified
  deriving Repr, DecidableEq, Inhabited

namespace TypeForm

def word : TypeForm → String
  | .enum => "enum"
  | .struct => "struct"
  | .identified => "class"

/-- The words for the kinds, in the order in which messages list them. -/
def words : List String :=
  ["enum", "struct", "class"]

def ofWord (text : String) : TypeForm :=
  if text = "enum" then .enum else if text = "struct" then .struct else .identified

end TypeForm

structure ValueDescription where
  name : String := ""
  doc : String := ""
  deriving Repr, DecidableEq

structure AttributeDescription where
  name : String := ""
  type : String := ""
  doc : String := ""
  deriving Repr, DecidableEq

/-- A type; values matter to an enum only, attributes to all others. -/
structure TypeDescription where
  name : String := ""
  form : TypeForm := .enum
  doc : String := ""
  values : List ValueDescription := []
  attributes : List AttributeDescription := []
  deriving Repr, DecidableEq

structure ParameterDescription where
  name : String := ""
  type : String := ""
  direction : Direction := .inbound
  doc : String := ""
  deriving Repr, DecidableEq

structure MethodDescription where
  name : String := ""
  doc : String := ""
  parameters : List ParameterDescription := []
  deriving Repr, DecidableEq

/-- A locator, with the name of the resource that it leads to. -/
structure LocatorDescription where
  name : String := ""
  target : String := ""
  isVariable : Bool := false
  doc : String := ""
  deriving Repr, DecidableEq

structure ResourceDescription where
  name : String := ""
  doc : String := ""
  methods : List MethodDescription := []
  locators : List LocatorDescription := []
  deriving Repr, DecidableEq

structure VersionDescription where
  name : String := ""
  doc : String := ""
  types : List TypeDescription := []
  resources : List ResourceDescription := []
  deriving Repr, DecidableEq

structure ServiceDescription where
  name : String := ""
  doc : String := ""
  versions : List VersionDescription := []
  deriving Repr, DecidableEq

structure ModelDescription where
  services : List ServiceDescription := []
  deriving Repr, DecidableEq

end VersionedApi.Description
