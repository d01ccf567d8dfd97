import VersionedApi.Model.Paths

/-!
# Conventions

Three conventions decide what a document looks like: how its parts are named,
how methods are bound to HTTP, and where the documents of a version go.  Each
is a record of functions, so a project can bring its own.
-/

namespace VersionedApi.OpenApi

open VersionedApi.Model

/-! ## Naming -/

structure Naming where
  schemaName : ApiType → String
  attributeName : Attribute → String
  parameterName : Parameter → String

/-- Schemas in Pascal case, properties in snake case. -/
def Naming.standard : Naming where
  schemaName type := type.name.pascal
  attributeName attr := attr.name.snake
  parameterName parameter := parameter.name.snake

/-! ## Binding -/

structure Binding where
  /-- The verb of a method, in capitals. -/
  verb : Method → String
  /-- The parameters sent in the body of a request. -/
  body : Version → Method → List Parameter
  /-- The parameters sent in the query string of a request. -/
  query : Version → Method → List Parameter
  /-- The parameters returned in the body of a response. -/
  response : Method → List Parameter
  /-- The status of a response to a request that succeeded. -/
  status : Method → String
  /-- The segment of a path that stands for a locator. -/
  segment : Locator → String
  /-- A parameter's name in a query string. -/
  parameterName : Parameter → String
  /-- An enum value as it is sent. -/
  valueName : EnumValue → String

namespace Binding

def httpVerb : MethodKind → String
  | .get | .list => "GET"
  | .add | .post | .action => "POST"
  | .update => "PATCH"
  | .delete => "DELETE"

def httpStatus : MethodKind → String
  | .add => "201"
  | .delete => "204"
  | _ => "200"

def hasBody : MethodKind → Bool
  | .get | .list | .delete => false
  | _ => true

/-- A parameter whose type fits into a query string; a dangling type does not. -/
def isScalar (version : Version) (parameter : Parameter) : Bool :=
  (version.type? parameter.type).any (·.kind.isScalar)

/--
The binding of a REST service.  A method without a body sends all that is
inbound in the query string; any other sends there only the scalars.
-/
def http : Binding where
  verb method := httpVerb method.kind
  body version method :=
    method.parameters.filter fun parameter =>
      hasBody method.kind && parameter.direction.isInbound && !isScalar version parameter
  query version method :=
    method.parameters.filter fun parameter =>
      parameter.direction.isInbound && (!hasBody method.kind || isScalar version parameter)
  response method := method.parameters.filter (·.direction.isOutbound)
  status method := httpStatus method.kind
  segment locator := locator.name.snake
  parameterName parameter := parameter.name.snake
  valueName value := value.name.snake

/-- The REST binding with dashes for the underscores in the segments of a path. -/
def dashed : Binding :=
  { http with
    segment locator :=
      String.ofList (locator.name.snake.toList.map fun c => if c = '_' then '-' else c) }

/-- A binding that sends every parameter in the body and returns none. -/
def bodyOnly : Binding :=
  { http with
    verb _ := "PUT"
    body _ method := method.parameters
    query _ _ := []
    response _ := []
    status _ := "202" }

end Binding

/-! ## Packaging -/

/-- Where the documents of a version go, as names between slashes. -/
structure Packaging where
  package : Version → String

/-- A directory for each service, its underscores dropped, and one in it for each version. -/
def Packaging.standard : Packaging where
  package version :=
    String.ofList (version.service.snake.toList.filter (· ≠ '_')) ++ "/" ++ version.name.snake

/-! ## Together -/

structure Conventions where
  naming : Naming
  binding : Binding

def Conventions.ofBinding (binding : Binding) : Conventions :=
  ⟨Naming.standard, binding⟩

end VersionedApi.OpenApi
