import TrafficPlane.Yaml.Node
import TrafficPlane.Yaml.Scalar

/-!
# From nodes to documents

A reference stands for the node with its anchor. Documents are bounded in depth, and the number of
references that are followed is bounded by the size of the document as it is written.

## Main definitions

* `Node.toDoc`: the document of a node
* `documentsOf`: the documents of a text
-/

namespace TrafficPlane

namespace Doc

mutual

/-- Two documents are the same, where the order of entries does not count. -/
def same : Doc → Doc → Bool
  | .null, .null => true
  | .bool a, .bool b => a == b
  | .int a, .int b => a == b
  | .real a, .real b => a == b || (a.isNaN && b.isNaN)
  | .text a, .text b => a == b
  | .list as, .list bs => sameItems as bs
  | .map as, .map bs => as.length == bs.length && hasEntries bs as
  | .tagged s a, .tagged t b => s == t && same a b
  | _, _ => false

/-- Two lists have the same items. -/
def sameItems : List Doc → List Doc → Bool
  | [], [] => true
  | a :: as, b :: bs => same a b && sameItems as bs
  | _, _ => false

/-- Every entry of the second list is in the first. -/
def hasEntries (among : List (Doc × Doc)) : List (Doc × Doc) → Bool
  | [] => true
  | (key, value) :: rest =>
    among.any (fun entry => same key entry.1 && same value entry.2) && hasEntries among rest

end

/-- No key comes twice. -/
def distinctKeys : List (Doc × Doc) → Bool
  | [] => true
  | (key, _) :: rest => !rest.any (fun entry => same key entry.1) && distinctKeys rest

end Doc

namespace Yaml

namespace Node

mutual

/-- The number of marks that the parts of a node make: one for a scalar or a reference, and two for
a collection. -/
def size : Node → Nat
  | .alias _ => 1
  | .scalar _ _ _ => 1
  | .sequence _ items => 2 + sizeItems items
  | .mapping _ entries => 2 + sizeEntries entries

/-- The marks of the items of a sequence. -/
def sizeItems : List Node → Nat
  | [] => 0
  | item :: rest => size item + sizeItems rest

/-- The marks of the entries of a mapping. -/
def sizeEntries : List (Node × Node) → Nat
  | [] => 0
  | (key, value) :: rest => size key + size value + sizeEntries rest

end

/-- The node with its number, if it has an anchor. -/
def anchored (node : Node) (properties : Properties) : List (Nat × Node) :=
  (properties.anchor.map fun number => (number, node)).toList

mutual

/-- The nodes with anchors, in the order in which they start. -/
def anchors : Node → List (Nat × Node)
  | .alias _ => []
  | .scalar properties text plain => anchored (.scalar properties text plain) properties
  | .sequence properties items =>
    anchored (.sequence properties items) properties ++ anchorsItems items
  | .mapping properties entries =>
    anchored (.mapping properties entries) properties ++ anchorsEntries entries

/-- The nodes with anchors within the items of a sequence. -/
def anchorsItems : List Node → List (Nat × Node)
  | [] => []
  | item :: rest => anchors item ++ anchorsItems rest

/-- The nodes with anchors within the entries of a mapping. -/
def anchorsEntries : List (Node × Node) → List (Nat × Node)
  | [] => []
  | (key, value) :: rest => anchors key ++ anchors value ++ anchorsEntries rest

end

/-- Computations that may still follow a number of references. -/
abbrev Expand := StateT Nat (Except Malformed)

/-- Follows one reference. Of several nodes with one number the last one counts. -/
def follow (table : List (Nat × Node)) (number : Nat) : Expand Node := fun left =>
  match left, table.reverse.lookup number with
  | left + 1, some node => .ok (node, left)
  | _, _ => malformed

/-- The document of a node, where `below` gives the documents of its parts if it may have any. -/
def expandWith (table : List (Nat × Node)) (below : Option (Node → Expand Doc)) (node : Node) :
    Expand Doc := do
  let node ← match node with
    | .alias number => follow table number
    | node => pure node
  match node, below with
  | .scalar properties text plain, _ => scalarValue properties.tag text plain
  | .sequence properties items, some below =>
    let docs ← items.mapM below
    withTag properties.tag (.list docs)
  | .mapping properties entries, some below =>
    let docs ← entries.mapM fun (key, value) => return (← below key, ← below value)
    if Doc.distinctKeys docs then withTag properties.tag (.map docs) else fun _ => malformed
  | _, _ => fun _ => malformed

/-- The document of a node with collections at most as deep as the number says. -/
def expand (table : List (Nat × Node)) : Nat → Node → Expand Doc
  | 0 => expandWith table none
  | depth + 1 => expandWith table (some (expand table depth))

/-- The number of collections that may be nested. -/
def maxDepth : Nat := 128

/-- The document of a node. -/
def toDoc (node : Node) : Result Doc :=
  (fun (doc, _) => doc) <$> (expand node.anchors maxDepth node).run (100 * node.size)

end Node

/-- The documents of a text, each as far as it can be read. After one that is no tree of nodes there
are none. -/
def documentsOf (text : String) : List (Result Doc) :=
  (nodesOf text).map (· >>= Node.toDoc)

end Yaml

end TrafficPlane
