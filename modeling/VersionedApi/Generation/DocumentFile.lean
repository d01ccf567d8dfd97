import VersionedApi.Document.Edit
import VersionedApi.Document.Format
import VersionedApi.Files.System
import VersionedApi.Generation.Failure

/-!
# Document files

A document together with the place it is written to:
`<output>/<package>/<name>.<extension>`.
-/

namespace VersionedApi.Generation

open VersionedApi.Document VersionedApi.Files

structure DocumentFile where
  output : String
  package : String
  name : String
  format : Format
  fields : Fields
  deriving Repr

namespace DocumentFile

def defaultName : String :=
  "openapi"

/-- A document without fields; the directory and the package are mandatory. -/
def empty (output package name : Option String) (format : Format) :
    Except Input DocumentFile :=
  match output.filter (!·.isEmpty), package with
  | none, _ => .error .outputDirectory
  | some _, none => .error .package
  | some output, some package => .ok ⟨output, package, name.getD defaultName, format, []⟩

def edit (file : DocumentFile) (steps : List FieldStep) : DocumentFile :=
  { file with fields := runFields steps file.fields }

def packageNames (file : DocumentFile) : List String :=
  PathText.names file.package

/-- What the path goes on with behind the package; a name may have slashes in it. -/
def fileName (file : DocumentFile) : String :=
  file.name ++ "." ++ file.format.extension

def path (file : DocumentFile) : String :=
  PathText.push (file.packageNames.foldl PathText.push file.output) file.fileName

def directory (file : DocumentFile) : String :=
  PathText.parent file.path

def text (file : DocumentFile) : String :=
  file.format.render file.fields

def write (file : DocumentFile) (system : System) : Except Failure System :=
  match system.makeDirectories file.directory with
  | .error cause => .error (.write file.directory cause)
  | .ok (system, place) =>
    match system.writeFile file.path place file.text with
    | .error cause => .error (.write file.path cause)
    | .ok system => .ok system

/-- What a write that fails leaves: the directories that could be made. -/
def abandon (file : DocumentFile) (system : System) : System :=
  system.beginDirectories file.directory

end DocumentFile

end VersionedApi.Generation
