/-!
# Texts of paths

A path is written as names between slashes.  The texts here are kept as they
are given, with doubled slashes and dots, because messages show them.
-/

namespace VersionedApi.Files

namespace PathText

def splitSlashes : List Char → List (List Char)
  | [] => [[]]
  | c :: rest =>
    if c = '/' then [] :: splitSlashes rest
    else
      match splitSlashes rest with
      | [] => [[c]]
      | part :: others => (c :: part) :: others

/-- The parts of a path between slashes, empty ones included. -/
def parts (path : String) : List String :=
  (splitSlashes path.toList).map String.ofList

/-- A part that stays where it is. -/
def isIdle (part : String) : Bool :=
  part = "" || part = "."

/-- The parts of a path up to the last one that leads somewhere. -/
def way (path : String) : List String :=
  ((parts path).reverse.dropWhile isIdle).reverse

/-- The parts of a path that are not empty. -/
def names (path : String) : List String :=
  (parts path).filter (· ≠ "")

def isAbsolute (path : String) : Bool :=
  path.toList.head? == some '/'

/-- Go on from a path; an absolute continuation takes its place. -/
def push (path next : String) : String :=
  if isAbsolute next || path.isEmpty then next
  else if path.toList.getLast? = some '/' then path ++ next
  else path ++ "/" ++ next

/-- A reversed path without slashes and single dots behind its last name. -/
def dropTrailing : List Char → List Char
  | ['/'] => ['/']
  | '/' :: rest => dropTrailing rest
  | ['.', '/'] => ['/']
  | '.' :: '/' :: rest => dropTrailing rest
  | path => path

def trimEnd (path : String) : String :=
  String.ofList (dropTrailing path.toList.reverse).reverse

/-- The directory that names lead to from a path. -/
def below (path : String) (names : List String) : String :=
  trimEnd (names.foldl push path)

def parent (path : String) : String :=
  trimEnd (String.ofList (path.toList.reverse.dropWhile (· ≠ '/')).reverse)

def lastName (path : String) : String :=
  String.ofList (path.toList.reverse.takeWhile (· ≠ '/')).reverse

/-- What follows the last dot of a file name that does not begin with it. -/
def extension? (path : String) : Option String :=
  match ((names path).filter (· ≠ ".")).getLast? with
  | none => none
  | some name =>
    let reversed := name.toList.reverse
    let extension := reversed.takeWhile (· ≠ '.')
    let stem := (reversed.drop (extension.length + 1))
    if name = ".." || stem.isEmpty then none else some (String.ofList extension.reverse)

end PathText

end VersionedApi.Files
