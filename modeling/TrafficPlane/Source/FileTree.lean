import TrafficPlane.Source.Directory

/-!
# Trees of files

Files in memory, by paths that start at the root of the tree.

## Main definitions

* `FileTree`: a file, or a directory of trees
* `FileTree.insert`: puts a tree at a path
* `FileTree.directoryAt`: a directory of the tree as a place of declarations
-/

namespace TrafficPlane

open Wire

/-- A file, or a directory of trees by their names. -/
inductive FileTree where
  | file (content : Bytes)
  | directory (entries : List (String × FileTree))
deriving Inhabited

namespace FileTree

/-- Why a path leads to nothing that can be used, in the words of the operating system. -/
inductive Obstacle where
  | missing
  | notDirectory
  | isDirectory
deriving DecidableEq, Repr

/-- The words of the operating system. -/
def Obstacle.message : Obstacle → String
  | .missing => "No such file or directory (os error 2)"
  | .notDirectory => "Not a directory (os error 20)"
  | .isDirectory => "Is a directory (os error 21)"

/-- The names of a path. A full stop stands for the place itself. -/
def names (path : String) : List String :=
  ((path.splitOn "/").filter fun name => name ≠ "" && name ≠ ".")

/-- The entries of a directory. A file has none. -/
def entries : FileTree → List (String × FileTree)
  | .directory entries => entries
  | .file _ => []

/-- The tree with another tree at a place, whose directories are made as needed. -/
def insertAt (added : FileTree) : List String → FileTree → FileTree
  | [], _ => added
  | name :: rest, tree =>
    let inner := (tree.entries.lookup name).getD (.directory [])
    .directory ((name, insertAt added rest inner) :: tree.entries.filter (·.1 ≠ name))

/-- The tree with another tree at a path. -/
def insert (tree : FileTree) (path : String) (added : FileTree) : FileTree :=
  insertAt added (names path) tree

/-- The tree at a place. Two full stops lead back to the directory around. -/
def find (around : List FileTree) : List String → FileTree → Except Obstacle FileTree
  | [], tree => .ok tree
  | _ :: _, .file _ => .error .notDirectory
  | ".." :: rest, _ =>
    match around with
    | outer :: around => find around rest outer
    | [] => .error .missing
  | name :: rest, .directory entries =>
    match entries.lookup name with
    | some tree => find (.directory entries :: around) rest tree
    | none => .error .missing

/-- A tree as an entry of a directory. -/
def toEntry : String × FileTree → FileEntry
  | (name, .file content) => { name, content := .ok content }
  | (name, .directory _) => { name, content := .error Obstacle.isDirectory.message }

/-- The directory at a path. Only paths that start at the root of the tree lead anywhere. -/
def listing (tree : FileTree) (path : String) : Except Obstacle (List FileEntry) :=
  if path = "" ∨ path.toList.head? = some '/' then .error .missing
  else match find [] (names path) tree with
    | .error obstacle => .error obstacle
    | .ok (.file _) => .error .notDirectory
    | .ok (.directory entries) => .ok (entries.map toEntry)

/-- The directory at a path as a place of declarations. -/
def directoryAt (tree : FileTree) (path : String) : Directory where
  path
  entries := match tree.listing path with
    | .ok entries => .ok entries
    | .error obstacle => .error obstacle.message

end FileTree

end TrafficPlane
