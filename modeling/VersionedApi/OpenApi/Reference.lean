import VersionedApi.OpenApi.Conventions
import VersionedApi.OpenApi.Problem

/-!
# References to types

Where a document mentions a type, a scalar, list or map is described in place,
and an enum or struct by a reference to its schema.
-/

namespace VersionedApi.OpenApi

open VersionedApi.Document VersionedApi.Model

def schemaRoot : String :=
  "#/components/schemas/"

def scalarSchema : Primitive → String × Option String
  | .boolean => ("boolean", none)
  | .integer => ("integer", some "int32")
  | .long => ("integer", some "int64")
  | .float => ("number", some "float")
  | .string => ("string", none)
  | .date => ("string", some "date-time")

def scalar (primitive : Primitive) : Draft FieldStep :=
  let (type, format) := scalarSchema primitive
  Draft.text "type" type ++
    match format with
    | none => Draft.none
    | some format => Draft.text "format" format

def schemaLink (schema : String) : Draft FieldStep :=
  Draft.text "$ref" (schemaRoot ++ schema)

/--
The fields that describe a value of a type, following at most `depth` types
from lists and maps to their elements.
-/
def referenceWithin (naming : Naming) (version : Version) : Nat → TypeId → Draft FieldStep
  | 0, _ => Draft.none
  | depth + 1, id =>
    match version.type? id with
    | none => Draft.problem (.danglingType id)
    | some type =>
      match type.kind with
      | .primitive primitive => scalar primitive
      | .interface => Draft.problem (.shapelessType type.name)
      | .enum _ | .struct _ _ => schemaLink (naming.schemaName type)
      | .list element =>
        Draft.text "type" "array" ++
          Draft.object "items" (referenceWithin naming version depth element)
      | .map element =>
        Draft.text "type" "object" ++
          Draft.object "additionalProperties" (referenceWithin naming version depth element)

/--
The fields that describe a value of a type.  Elements that do not repeat lead
through no more types than the version has, and then to one that may dangle.
-/
def reference (naming : Naming) (version : Version) (id : TypeId) : Draft FieldStep :=
  referenceWithin naming version (version.types.length + 1) id

end VersionedApi.OpenApi
