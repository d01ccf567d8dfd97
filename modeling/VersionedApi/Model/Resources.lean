import VersionedApi.Model.Types

/-!
# Resources

A resource serves methods and leads to other resources through locators.  Like
types, the resources of a version are numbered and a number may dangle.
-/

namespace VersionedApi.Model

/-- The number of a resource within its version. -/
structure ResourceId where
  index : Nat
  deriving Repr, DecidableEq, Inhabited

inductive Direction where
  | inbound
  | outbound
  | both
  deriving Repr, DecidableEq, Inhabited

namespace Direction

def isInbound : Direction → Bool
  | .inbound | .both => true
  | .outbound => false

def isOutbound : Direction → Bool
  | .outbound | .both => true
  | .inbound => false

end Direction

structure Parameter where
  name : Name
  doc : String
  direction : Direction
  type : TypeId
  deriving Repr, DecidableEq

/-- The methods with a fixed meaning; any other name is an action. -/
inductive MethodKind where
  | get
  | list
  | add
  | post
  | update
  | delete
  | action
  deriving Repr, DecidableEq

def MethodKind.ofName (name : Name) : MethodKind :=
  match name.snake with
  | "get" => .get
  | "list" => .list
  | "add" => .add
  | "post" => .post
  | "update" => .update
  | "delete" => .delete
  | _ => .action

structure Method where
  name : Name
  doc : String
  parameters : List Parameter
  deriving Repr, DecidableEq

def Method.kind (method : Method) : MethodKind :=
  MethodKind.ofName method.name

/-- A step from a resource to the next: a fixed segment or a variable. -/
structure Locator where
  name : Name
  doc : String
  isVariable : Bool
  target : ResourceId
  deriving Repr, DecidableEq

structure Resource where
  name : Name
  doc : String
  methods : List Method
  locators : List Locator
  deriving Repr, DecidableEq

/-- A chain of locators, the first of which leaves the root of a version. -/
abbrev Path := List Locator

/-- Where a path ends; the empty path ends nowhere. -/
def Path.target? (path : Path) : Option ResourceId :=
  path.getLast?.map (·.target)

end VersionedApi.Model
