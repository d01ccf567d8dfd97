import VersionedApi.Files.PathText
import VersionedApi.Files.Tree

/-!
# File systems

A file system is a tree and a place in it that relative paths start from.  To
go on from a place there must be a directory there; whoever is about to write
makes the directories that are missing.
-/

namespace VersionedApi.Files

/-- All files, and where relative paths start. -/
structure System where
  root : Tree
  current : List String
  deriving Repr

/-- The octets that a name in a directory may have. -/
def longestName : Nat :=
  255

def longestPath : Nat :=
  4095

namespace Tree

def requireDirectory (root : Tree) (place : List String) : Except FileError Unit :=
  match root.readFile place with
  | .error .isDirectory => .ok ()
  | .error error => .error error
  | .ok _ => .error .notDirectory

def follow (root : Tree) (place : List String) : List String → Except FileError (List String)
  | [] => .ok place
  | part :: parts =>
    match root.requireDirectory place with
    | .error error => .error error
    | .ok () =>
      if PathText.isIdle part then root.follow place parts
      else if part = ".." then root.follow place.dropLast parts
      else if longestName < part.utf8ByteSize then .error .nameTooLong
      else root.follow (place ++ [part]) parts

/--
Follow the parts of a path from a directory and make the directories that are
missing.  A file in the way is one that already exists if the way to it had to
be made or ends at it.
-/
def makeWay (made : Bool) (place : List String) : List String → Tree →
    Except FileError (Tree × List String)
  | [], root => .ok (root, place)
  | part :: parts, root =>
    if PathText.isIdle part then makeWay made place parts root
    else if part = ".." then makeWay made place.dropLast parts root
    else if longestName < part.utf8ByteSize then .error .nameTooLong
    else
      match root.readFile (place ++ [part]) with
      | .error .isDirectory => makeWay made (place ++ [part]) parts root
      | .ok _ => .error (if made || parts.isEmpty then .alreadyExists else .notDirectory)
      | .error _ =>
        match root.makeDirectories (place ++ [part]) with
        | .error error => .error error
        | .ok root => makeWay true (place ++ [part]) parts root

/-- The tree after a way was made up to the first part that stops it. -/
def beginWay (place : List String) : List String → Tree → Tree
  | [], root => root
  | part :: parts, root =>
    match makeWay false place [part] root with
    | .error _ => root
    | .ok (root, place) => beginWay place parts root

end Tree

namespace System

/-- Why no operation takes a path, if none does. -/
@[irreducible]
def refusal? (path : String) : Option FileError :=
  if path.toList.contains (Char.ofNat 0) then some .zeroInName
  else if path.isEmpty then some .notFound
  else if longestPath < path.utf8ByteSize then some .nameTooLong
  else none

def start (system : System) (path : String) : List String :=
  if PathText.isAbsolute path then [] else system.current

def locate (system : System) (path : String) : Except FileError (List String) :=
  match refusal? path with
  | some error => .error error
  | none => system.root.follow (system.start path) (PathText.parts path)

def readFile (system : System) (path : String) : Except FileError String := do
  system.root.readFile (← system.locate path)

def exists? (system : System) (path : String) : Bool :=
  match system.locate path with
  | .ok place => (system.root.at? place).isSome
  | .error _ => false

/--
Make the directory that a path leads to, and all directories on the way to it.
What stands behind the last name of the path is not part of the way.
-/
def makeDirectories (system : System) (path : String) :
    Except FileError (System × List String) :=
  match refusal? path with
  | some error => .error error
  | none => do
    let (root, place) ← system.root.makeWay false (system.start path) (PathText.way path)
    return ({ system with root }, place)

/-- The file system after directories were made up to the first that cannot be. -/
def beginDirectories (system : System) (path : String) : System :=
  match refusal? path with
  | some _ => system
  | none => { system with root := system.root.beginWay (system.start path) (PathText.way path) }

/-- Write the file that the last name of a path stands for at the place of its directory. -/
def writeFile (system : System) (path : String) (place : List String) (content : String) :
    Except FileError System :=
  let name := PathText.lastName path
  match refusal? path with
  | some error => .error error
  | none =>
    if longestName < name.utf8ByteSize then .error .nameTooLong
    else (system.root.writeFile content (place ++ [name])).map fun root => { system with root }

def putFile (system : System) (path content : String) : Except FileError System := do
  let way := PathText.way path
  let (root, place) ← system.root.makeWay false (system.start path) way.dropLast
  let root ← root.writeFile content (place ++ way.getLast?.toList)
  return { system with root }

/-- Every file under a place, with the names that lead there from it. -/
def filesUnder (system : System) (place : List String) : List (List String × String) :=
  match system.root.at? place with
  | none => []
  | some tree => tree.files

end System

end VersionedApi.Files
