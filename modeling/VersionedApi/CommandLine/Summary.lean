import VersionedApi.Document.Node
import VersionedApi.Model.Paths
import VersionedApi.OpenApi.Conventions
import VersionedApi.Order.Distinct

/-!
# Summaries

What a model comes to, without any of its documents: for every version its
package, its paths and its schemas.
-/

namespace VersionedApi.CommandLine

open VersionedApi.Document VersionedApi.Model VersionedApi.OpenApi

/-- The absolute paths of a version in order, each once. -/
def pathTexts (version : Version) : List String :=
  Order.sortDistinct (fun left right => decide (left ≤ right))
    (version.paths.map version.absolutePath)

def schemaNames (version : Version) : List String :=
  version.schemaTypes.map Naming.standard.schemaName

def summarizeVersion (version : Version) : Node :=
  .object
    [ ("service", .text version.service.snake),
      ("version", .text version.name.snake),
      ("package", .text (Packaging.standard.package version)),
      ("paths", .array ((pathTexts version).map .text)),
      ("schemas", .array ((schemaNames version).map .text)) ]

def summarize (model : ApiModel) : Fields :=
  [("versions", .array (model.versions.map summarizeVersion))]

def describeVersion (version : Version) : String :=
  "    " ++ version.name.snake ++ ": " ++ toString version.schemaTypes.length ++ " types, " ++
    toString version.resources.length ++ " resources, " ++
    toString version.paths.length ++ " paths\n" ++
    (if version.root.isNone then
      "    warning: " ++ version.name.snake ++ " has no root resource\n"
    else "")

def describeService (service : Service) : String :=
  "  Service: " ++ service.name.snake ++ "\n" ++ String.join (service.versions.map describeVersion)

end VersionedApi.CommandLine
