import VersionedApi.OpenApi.Schemas
import VersionedApi.Text.SmallText

/-!
# Operations

A method that is reached through a path becomes an operation under the verb
of the method: its parameters, its body if it has one, and two responses.
-/

namespace VersionedApi.OpenApi

open VersionedApi.Document VersionedApi.Model

def mediaType : String :=
  "application/json"

def content (schema : Draft FieldStep) : Draft FieldStep :=
  Draft.object "content" (Draft.object mediaType (Draft.object "schema" schema))

def operationKey (conventions : Conventions) (method : Method) : String :=
  Text.lowercaseText (conventions.binding.verb method)

/-! ## Parameters -/

def pathParameterName (conventions : Conventions) (locator : Locator) : String :=
  conventions.binding.segment locator ++ "_id"

def pathParameter (conventions : Conventions) (locator : Locator) : Draft ItemStep :=
  Draft.objectItem
    (Draft.text "name" (pathParameterName conventions locator) ++ Draft.text "in" "path" ++
      Draft.object "schema" (Draft.text "type" "string"))

def queryParameter (conventions : Conventions) (version : Version) (parameter : Parameter) :
    Draft ItemStep :=
  Draft.objectItem
    (Draft.text "name" (conventions.binding.parameterName parameter) ++
      Draft.description parameter.doc ++ Draft.text "in" "query" ++
      Draft.object "schema" (reference conventions.naming version parameter.type))

/-- The parameters of an operation: the variables of its path, then its query string. -/
def parameters (conventions : Conventions) (version : Version) (path : Path) (method : Method) :
    Draft FieldStep :=
  Draft.array "parameters"
    (Draft.concat ((path.filter (·.isVariable)).map (pathParameter conventions)) ++
      Draft.concat
        ((conventions.binding.query version method).map (queryParameter conventions version)))

/-! ## Bodies -/

/-- The body of a request: the first parameter that is sent in one. -/
def requestBody (conventions : Conventions) (version : Version) (method : Method) :
    Draft FieldStep :=
  match conventions.binding.body version method with
  | [] => Draft.none
  | parameter :: _ =>
    Draft.object "requestBody" (content (reference conventions.naming version parameter.type))

def responseProperty (conventions : Conventions) (version : Version) (parameter : Parameter) :
    Draft FieldStep :=
  Draft.object (conventions.naming.parameterName parameter)
    (Draft.description parameter.doc ++
      reference conventions.naming version parameter.type)

/-- The body of a response: a lone parameter itself, several as an object. -/
def responseBody (conventions : Conventions) (version : Version) :
    List Parameter → Draft FieldStep
  | [] => Draft.none
  | [parameter] => content (reference conventions.naming version parameter.type)
  | several =>
    content
      (Draft.text "type" "object" ++
        Draft.object "properties"
          (Draft.concat (several.map (responseProperty conventions version))))

/-- The responses of an operation: one for success and one for everything else. -/
def responses (conventions : Conventions) (version : Version) (method : Method) :
    Draft FieldStep :=
  Draft.object "responses"
    (Draft.object (conventions.binding.status method)
        (Draft.description "Success." ++
          responseBody conventions version (conventions.binding.response method)) ++
      Draft.object "default"
        (Draft.description "Error." ++ content (schemaLink errorSchemaName)))

/-! ## All of it -/

def operation (conventions : Conventions) (version : Version) (path : Path) (method : Method) :
    Draft FieldStep :=
  Draft.object (operationKey conventions method)
    (Draft.description method.doc ++ parameters conventions version path method ++
      requestBody conventions version method ++ responses conventions version method)

end VersionedApi.OpenApi
