import VersionedApi.CommandLine.Execution

/-!
# The program

Reads the files that a command may need, carries the command out, and writes
the files that it changed.
-/

namespace VersionedApi.Main

open VersionedApi.CommandLine VersionedApi.Files

/-- A system without files whose relative paths start at a directory. -/
def emptySystem (directory : String) : System :=
  let current := PathText.names directory
  let root := ((Tree.directory []).makeDirectories current).toOption.getD (.directory [])
  ⟨root, current⟩

def withFile (system : System) (path : String) : IO System := do
  try
    let content ← IO.FS.readFile path
    return (system.putFile path content).toOption.getD system
  catch _ => return system

def modelPath (system : System) : Command → Option String
  | .generate model _ _ =>
    let settings := ((Settings.load system Settings.fileName).toOption.bind id).getD {}
    some (model.getD settings.model)
  | .validate model => some model
  | .inspect model _ => some model
  | .init _ => none

def writeChanged (before : System) (file : List String × String) : IO Unit := do
  let (names, content) := file
  if (before.root.readFile names).toOption ≠ some content then
    IO.FS.createDirAll ("/" ++ "/".intercalate names.dropLast)
    IO.FS.writeFile ("/" ++ "/".intercalate names) content

def run (arguments : List String) : IO UInt32 := do
  match Command.ofArguments? arguments with
  | none =>
    IO.eprintln "The arguments cannot be used."
    return 2
  | some command =>
    let start := emptySystem (toString (← IO.currentDir))
    let configured ← withFile start Settings.fileName
    let system ←
      match modelPath configured command with
      | none => pure configured
      | some path => withFile configured path
    let outcome := command.run system
    outcome.system.root.files.forM (writeChanged system)
    IO.print outcome.output
    IO.eprint outcome.remarks
    return outcome.code.toUInt32

end VersionedApi.Main

def main (arguments : List String) : IO UInt32 :=
  VersionedApi.Main.run arguments
