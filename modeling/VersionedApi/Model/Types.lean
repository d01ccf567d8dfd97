import VersionedApi.Model.Name

/-!
# Types

The types of a version are numbered, and a type refers to others by number.
A number may dangle: nothing here requires that it is in use.
-/

namespace VersionedApi.Model

structure TypeId where
  index : Nat
  deriving Repr, DecidableEq, Inhabited

inductive Primitive where
  | boolean
  | integer
  | long
  | float
  | string
  | date
  deriving Repr, DecidableEq, Inhabited

namespace Primitive

/-- Every built-in scalar, in the order of their numbers. -/
def all : List Primitive :=
  [.boolean, .integer, .long, .float, .string, .date]

/-- The name under which a description refers to the scalar. -/
def label : Primitive → String
  | .boolean => "Boolean"
  | .integer => "Integer"
  | .long => "Long"
  | .float => "Float"
  | .string => "String"
  | .date => "Date"

def ofLabel? (text : String) : Option Primitive :=
  all.find? (·.label == text)

end Primitive

structure EnumValue where
  name : Name
  doc : String
  deriving Repr, DecidableEq

structure Attribute where
  name : Name
  doc : String
  type : TypeId
  deriving Repr, DecidableEq

inductive TypeKind where
  | primitive (scalar : Primitive)
  /-- A value of any shape, which no schema describes. -/
  | interface
  | enum (values : List EnumValue)
  /-- An identified struct is a class: it can also travel as a link. -/
  | struct (attributes : List Attribute) (identified : Bool)
  | list (element : TypeId)
  | map (element : TypeId)
  deriving Repr, DecidableEq

structure ApiType where
  name : Name
  doc : String
  kind : TypeKind
  deriving Repr, DecidableEq

namespace TypeKind

/-- Kinds whose values fit into a query string. -/
def isScalar : TypeKind → Bool
  | .primitive _ | .interface | .enum _ => true
  | _ => false

def isEnum : TypeKind → Bool
  | .enum _ => true
  | _ => false

def isStruct : TypeKind → Bool
  | .struct _ _ => true
  | _ => false

def isClass : TypeKind → Bool
  | .struct _ identified => identified
  | _ => false

/-- The attributes of a struct; other kinds have none. -/
def attributes : TypeKind → List Attribute
  | .struct attributes _ => attributes
  | _ => []

def values : TypeKind → List EnumValue
  | .enum values => values
  | _ => []

/-- Kinds that get a schema of their own in a document. -/
def hasSchema (kind : TypeKind) : Bool :=
  kind.isEnum || kind.isStruct

end TypeKind

namespace ApiType

def ofKind (name : String) (kind : TypeKind) : ApiType :=
  ⟨Name.ofText name, "", kind⟩

/-- The built-in types in the order of their numbers: the scalars, then the interface. -/
def builtins : List ApiType :=
  Primitive.all.map (fun primitive => ofKind primitive.label (.primitive primitive)) ++
    [ofKind "Interface" .interface]

theorem length_builtins : builtins.length = 7 := rfl

end ApiType

end VersionedApi.Model
