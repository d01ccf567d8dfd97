import VersionedApi.OpenApi.Operations

/-!
# Path items

Every absolute path of a version has one item, with the operations of the
resource at its end.  Where several paths read the same, the first of them
counts.
-/

namespace VersionedApi.OpenApi

open VersionedApi.Document VersionedApi.Model

/-! ## Distinct paths -/

/-- The pairs whose key no earlier pair has. -/
def keepFirst : List (String × Path) → List (String × Path)
  | [] => []
  | (key, path) :: rest => (key, path) :: (keepFirst rest).filter (·.1 ≠ key)

/-- Each absolute path with the first chain that it spells, in the order of the texts. -/
def distinctPaths (version : Version) : List (String × Path) :=
  (keepFirst (version.paths.map fun path => (version.absolutePath path, path))).mergeSort
    fun left right => decide (left.1 ≤ right.1)

/-! ## Operations of a resource -/

/--
The operations of methods, of which those in `taken` already have their verb.
A method that comes too late is left out.
-/
def pathOperations (conventions : Conventions) (version : Version) (key : String) (path : Path) :
    List String → List Method → Draft FieldStep
  | _, [] => Draft.none
  | taken, method :: rest =>
    let verb := operationKey conventions method
    if verb ∈ taken then
      Draft.problem (.repeatedVerb method.name key verb) ++
        pathOperations conventions version key path taken rest
    else
      operation conventions version path method ++
        pathOperations conventions version key path (verb :: taken) rest

def pathItem (conventions : Conventions) (version : Version) (key : String) (path : Path) :
    Draft FieldStep :=
  match path.target?.bind version.resource? with
  | none => Draft.problem (.danglingPath key)
  | some resource =>
    Draft.object key (pathOperations conventions version key path [] resource.methods)

def pathItems (conventions : Conventions) (version : Version) : Draft FieldStep :=
  Draft.concat ((distinctPaths version).map fun (key, path) =>
    pathItem conventions version key path)

end VersionedApi.OpenApi
