import BankLedger.Text.Octets

/-!
# File trees

A directory with its files and directories, held in memory.  It refuses what a system refuses, with
the same reasons, so that a program can be rehearsed on it.
-/

namespace BankLedger.Command

/-- Why a file or a directory cannot be used. -/
inductive FileFault
  | missing
  | exists
  | notDirectory
  | isDirectory
deriving DecidableEq

/-- The wording of a fault. -/
def FileFault.message : FileFault → String
  | .missing => "No such file or directory (os error 2)"
  | .exists => "File exists (os error 17)"
  | .notDirectory => "Not a directory (os error 20)"
  | .isDirectory => "Is a directory (os error 21)"

/-- What stands under a name. -/
inductive FileEntry
  | directory
  | file (content : Octets)
deriving DecidableEq

/-- What is in a directory, by the names that lead there. -/
structure FileTree where
  entries : List (List String × FileEntry)

namespace FileTree

/-- The names that a path leads through. -/
def parts (path : String) : List String :=
  ((path.toList.splitOn '/').map String.ofList).filter fun part => part != "" && part != "."

/-- The names that a path leads through from the directory, which a path may name itself. -/
def names (home path : String) : List String :=
  if (parts path).head? = some home then (parts path).tail else parts path

/-- What stands at a place. -/
def find? (tree : FileTree) (place : List String) : Option FileEntry :=
  if place.isEmpty then some .directory else tree.entries.lookup place

/-- Whether a place is in a directory that is there. -/
def checkParent (tree : FileTree) (place : List String) : Except FileFault Unit :=
  let parents := (List.range place.length).map fun count => tree.find? (place.take count)
  if parents.all (· = some .directory) then .ok ()
  else
    match parents.find? (· ≠ some .directory) with
    | some (some _) => .error .notDirectory
    | _ => .error .missing

/-- The content of a file. -/
def read (tree : FileTree) (place : List String) : Except FileFault Octets := do
  tree.checkParent place
  match tree.find? place with
  | none => .error .missing
  | some .directory => .error .isDirectory
  | some (.file content) => .ok content

/-- The tree with an entry. -/
def put (place : List String) (entry : FileEntry) (tree : FileTree) : FileTree :=
  ⟨(place, entry) :: tree.entries.filter fun other => other.1 ≠ place⟩

/-- The tree with a file. -/
def write (place : List String) (content : Octets) (tree : FileTree) :
    Except FileFault FileTree := do
  tree.checkParent place
  match tree.find? place with
  | some .directory => .error .isDirectory
  | _ => .ok (tree.put place (.file content))

/-- The tree with the directories that lie on the way from one place to another. -/
def makeDirectories (tree : FileTree) (place : List String) :
    List String → Except FileFault FileTree
  | [] => .ok tree
  | name :: others =>
      let next := place ++ [name]
      match tree.find? next with
      | some .directory => tree.makeDirectories next others
      | some (.file _) => .error (if others.isEmpty then .exists else .notDirectory)
      | none => (tree.put next .directory).makeDirectories next others

end FileTree

end BankLedger.Command
