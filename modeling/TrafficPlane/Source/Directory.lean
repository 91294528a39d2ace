import TrafficPlane.Source.Declaration
import TrafficPlane.Wire.Field

/-!
# Declarations in directories

Every YAML file of a directory holds declarations. Files are read in the order of their names, and a
directory is listed in whole or not at all.

## Main definitions

* `FileEntry`: what a directory holds under a name
* `Directory.declarations`: all declarations of a directory
* `Directory.specs`, `Directory.memberships`: those of one kind
-/

namespace TrafficPlane

/-- What a directory holds under a name: some bytes, or the reason why they cannot be read. -/
structure FileEntry where
  name : String
  content : Except String Wire.Bytes

/-- The part of a file's name after its last full stop, which does not come first. -/
def FileEntry.extension? (entry : FileEntry) : Option String :=
  let name := entry.name.toList.reverse
  let last := name.takeWhile (· ≠ '.')
  match name.drop last.length with
  | '.' :: _ :: _ => some (.ofList last.reverse)
  | _ => none

/-- The file is written in YAML, as far as its name tells. -/
def FileEntry.isYaml (entry : FileEntry) : Bool :=
  entry.extension? = some "yaml" || entry.extension? = some "yml"

/-- The text of a file. -/
def FileEntry.text (entry : FileEntry) : Except String String :=
  match entry.content with
  | .error reason => .error reason
  | .ok bytes =>
    match Wire.textOfBytes? bytes with
    | some text => .ok text
    | none => .error "stream did not contain valid UTF-8"

/-- A directory by its path, with its entries in any order, or the reason why they are not known. -/
structure Directory where
  path : String
  entries : Except String (List FileEntry)

namespace Directory

/-- The path of a file within the directory. -/
def pathOf (directory : Directory) (name : String) : String :=
  if directory.path = "" ∨ directory.path.toList.getLast? = some '/' then directory.path ++ name
  else directory.path ++ "/" ++ name

/-- The declarations of one file. -/
def declarationsOf (directory : Directory) (entry : FileEntry) :
    Except Fault (List Declaration) :=
  let path := directory.pathOf entry.name
  match entry.text with
  | .error reason => .error (.transient (.reading path reason))
  | .ok text =>
    match Declaration.ofText text with
    | .error fault => .error (.serialization (.file path fault))
    | .ok declarations => .ok declarations

/-- The YAML files among some entries, in the order of their names. -/
def yamlFiles (entries : List FileEntry) : List FileEntry :=
  (entries.filter (·.isYaml)).mergeSort fun a b => a.name ≤ b.name

/-- All declarations of the directory. The first file that is bad decides the fault. -/
def declarations (directory : Directory) : Except Fault (List Declaration) :=
  match directory.entries with
  | .error reason => .error (.transient (.listing directory.path reason))
  | .ok entries => List.flatten <$> (yamlFiles entries).mapM directory.declarationsOf

/-- The routing specs of the directory, or those of one namespace. -/
def specs (directory : Directory) (scope : Option String) : Except Fault (List RoutingSpec) :=
  (fun declarations => (declarations.filterMap (·.spec?)).filter fun spec =>
    scope.all (· == spec.space)) <$> directory.declarations

/-- The memberships of the directory, of every namespace. -/
def memberships (directory : Directory) : Except Fault (List Membership) :=
  (fun declarations => declarations.filterMap (·.membership?)) <$> directory.declarations

end Directory

end TrafficPlane
