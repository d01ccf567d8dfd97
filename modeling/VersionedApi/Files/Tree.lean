/-!
# File trees

A directory holds files and further directories under distinct names.  A place
in a tree is the list of names that leads to it.
-/

namespace VersionedApi.Files

inductive FileError where
  | notFound
  | alreadyExists
  | notDirectory
  | isDirectory
  | nameTooLong
  /-- A name holds the zero character. -/
  | zeroInName
  deriving Repr, DecidableEq

def FileError.message : FileError → String
  | notFound => "No such file or directory (os error 2)"
  | alreadyExists => "File exists (os error 17)"
  | notDirectory => "Not a directory (os error 20)"
  | isDirectory => "Is a directory (os error 21)"
  | nameTooLong => "File name too long (os error 36)"
  | zeroInName => "file name contained an unexpected NUL byte"

inductive Tree where
  | file (content : String)
  | directory (entries : List (String × Tree))
  deriving Repr, Inhabited

/-- Store a tree under a name, in the place of one that has the name. -/
def putEntry (name : String) (tree : Tree) : List (String × Tree) → List (String × Tree)
  | [] => [(name, tree)]
  | (present, old) :: rest =>
    if present = name then (present, tree) :: rest else (present, old) :: putEntry name tree rest

theorem lookup_putEntry_self (name : String) (tree : Tree) (entries : List (String × Tree)) :
    (putEntry name tree entries).lookup name = some tree := by
  induction entries with
  | nil => simp [putEntry]
  | cons entry rest ih =>
      obtain ⟨present, old⟩ := entry
      by_cases same : present = name
      · subst same; simp [putEntry]
      · have other : (name == present) = false := by simpa using fun equal => same equal.symm
        simpa [putEntry, same, List.lookup_cons, other] using ih

theorem lookup_putEntry_of_ne {name other : String} (tree : Tree)
    (entries : List (String × Tree)) (different : other ≠ name) :
    (putEntry name tree entries).lookup other = entries.lookup other := by
  induction entries with
  | nil =>
      have unequal : (other == name) = false := by simpa using different
      simp [putEntry, List.lookup_cons, unequal]
  | cons entry rest ih =>
      obtain ⟨present, old⟩ := entry
      by_cases same : present = name
      · subst same
        have unequal : (other == present) = false := by simpa using different
        simp [putEntry, List.lookup_cons, unequal]
      · simp only [putEntry, same, if_false, List.lookup_cons]
        cases other == present with
        | true => rfl
        | false => exact ih

namespace Tree

def at? : List String → Tree → Option Tree
  | [], tree => some tree
  | _ :: _, file _ => none
  | name :: names, directory entries => (entries.lookup name).bind (at? names)

def readFile : List String → Tree → Except FileError String
  | [], file content => .ok content
  | [], directory _ => .error .isDirectory
  | _ :: _, file _ => .error .notDirectory
  | name :: names, directory entries =>
    match entries.lookup name with
    | none => .error .notFound
    | some tree => readFile names tree

/-- Make a directory at a place, and every directory on the way to it that is missing. -/
def makeDirectories : List String → Tree → Except FileError Tree
  | [], directory entries => .ok (directory entries)
  | [], file _ => .error .alreadyExists
  | _ :: _, file _ => .error .notDirectory
  | name :: names, directory entries =>
    (makeDirectories names ((entries.lookup name).getD (directory []))).map fun tree =>
      directory (putEntry name tree entries)

def writeFile (content : String) : List String → Tree → Except FileError Tree
  | [], file _ => .ok (file content)
  | [], directory _ => .error .isDirectory
  | _ :: _, file _ => .error .notDirectory
  | name :: names, directory entries =>
    let written :=
      match entries.lookup name, names with
      | some tree, names => writeFile content names tree
      | none, [] => .ok (file content)
      | none, _ :: _ => .error .notFound
    written.map fun tree => directory (putEntry name tree entries)

mutual

/-- Every file of a tree with its place, directories opened in order. -/
def files : Tree → List (List String × String)
  | file content => [([], content)]
  | directory entries => entryFiles entries

def entryFiles : List (String × Tree) → List (List String × String)
  | [] => []
  | (name, tree) :: rest =>
    (files tree).map (fun (names, content) => (name :: names, content)) ++ entryFiles rest

end

end Tree

end VersionedApi.Files
