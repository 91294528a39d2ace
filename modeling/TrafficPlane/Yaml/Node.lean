import TrafficPlane.Yaml.Lexer

/-!
# From tokens to nodes

A document is a tree of nodes. Nodes may have an anchor, by which other places of the document refer
to them, and a tag.

## Main definitions

* `Node`: a node as it is written
* `readNode`: the node at the front of some tokens
* `nodesOf`: the documents of a text
-/

namespace TrafficPlane.Yaml

/-- What may stand in front of a node. -/
structure Properties where
  /-- The number of the node's anchor within the document. -/
  anchor : Option Nat := none
  /-- The node's tag in full. -/
  tag : Option String := none
deriving DecidableEq, Repr, Inhabited

/-- A node as it is written. -/
inductive Node where
  /-- The node whose anchor has a number. -/
  | alias (number : Nat)
  | scalar (properties : Properties) (text : String) (plain : Bool)
  | sequence (properties : Properties) (items : List Node)
  | mapping (properties : Properties) (entries : List (Node × Node))
deriving Repr, Inhabited

/-- A scalar that is not written at all. -/
def Node.missing (properties : Properties) : Node := .scalar properties "" true

/-- The tokens that are left, with the anchors and the handles of the document at hand. -/
structure TokenReader where
  tokens : List Token
  /-- The numbers of the anchors, the last one first. -/
  anchors : List (String × Nat) := []
  /-- The number of different names among the anchors. -/
  names : Nat := 0
  /-- What the handles of tags stand for. -/
  handles : List (String × String) := []

/-- Readers of tokens. -/
abbrev Read := StateT TokenReader (Except Malformed)

namespace Read

/-- The tokens make no sense. -/
def fail {α : Type} : Read α := fun _ => malformed

/-- The next token. -/
def peek : Read Token := do
  match (← get).tokens with
  | token :: _ => return token
  | [] => return .broken

/-- Passes over the next token. -/
def skip : Read Unit :=
  modify fun reader => { reader with tokens := reader.tokens.tail }

/-- Passes over the next token if it is the given one, and says whether it was. -/
def accept (token : Token) : Read Bool := do
  if (← peek) = token then
    skip
    return true
  else return false

/-- Passes over the next token, which has to be the given one. -/
def expect (token : Token) : Read Unit := do
  if !(← accept token) then fail

/-- The number of a new anchor: the number of different names so far. -/
def declareAnchor (name : String) : Read Nat := do
  let reader ← get
  let known := (reader.anchors.lookup name).isSome
  set { reader with
    anchors := (name, reader.names) :: reader.anchors
    names := if known then reader.names else reader.names + 1 }
  return reader.names

/-- Forgets the anchors of the document before, and knows other handles. -/
def startDocument (handles : List (String × String)) : Read Unit :=
  modify fun reader => { reader with anchors := [], names := 0, handles }

/-- The number of the anchor that a name stands for. -/
def anchorNumber (name : String) : Read Nat := do
  match (← get).anchors.lookup name with
  | some number => return number
  | none => fail

/-- A tag in full. -/
def fullTag (handle suffix : String) : Read String := do
  if handle = "" then return suffix
  else match (← get).handles.lookup handle with
    | some lead => return lead ++ suffix
    | none => fail

/-- Reads the anchor in front of a node, if there is one. -/
def anchor? : Read (Option Nat) := do
  match ← peek with
  | .anchor name =>
    skip
    some <$> declareAnchor name
  | _ => return none

/-- Reads the tag in front of a node, if there is one. -/
def tag? : Read (Option String) := do
  match ← peek with
  | .tag handle suffix =>
    skip
    some <$> fullTag handle suffix
  | _ => return none

/-- Reads an anchor and a tag, in either order. -/
def properties : Read Properties := do
  match ← anchor? with
  | some number => return { anchor := some number, tag := ← tag? }
  | none =>
    match ← tag? with
    | some tag => return { anchor := ← anchor?, tag := some tag }
    | none => return {}

end Read

open Read

/-- A lone exclamation mark is no tag of a scalar that is written. -/
def Properties.ofScalar (properties : Properties) : Properties :=
  if properties.tag = some "!" then { properties with tag := none } else properties

mutual

/-- Reads a node. Block collections may be read only where `block` says so, and sequences that are
not indented only where `flush` says so. -/
def readNode (fuel : Nat) (block flush : Bool) : Read Node :=
  match fuel with
  | 0 => fail
  | fuel + 1 => do
    if let .alias name ← peek then
      skip
      return .alias (← anchorNumber name)
    let properties ← properties
    match ← peek, block, flush with
    | .blockEntry, _, true => return .sequence properties (← readFlushItems fuel)
    | .scalar text plain, _, _ =>
      skip
      return .scalar properties.ofScalar text plain
    | .flowSequenceStart, _, _ =>
      skip
      return .sequence properties (← readFlowItems fuel true)
    | .flowMappingStart, _, _ =>
      skip
      return .mapping properties (← readFlowEntries fuel true)
    | .blockSequenceStart, true, _ =>
      skip
      return .sequence properties (← readBlockItems fuel)
    | .blockMappingStart, true, _ =>
      skip
      return .mapping properties (← readBlockEntries fuel)
    | _, _, _ => if properties = {} then fail else return .missing properties

/-- Reads a node, unless one of the given tokens comes next: then the node is missing. -/
def readNodeUnless (stops : List Token) (fuel : Nat) (block flush : Bool) : Read Node :=
  match fuel with
  | 0 => fail
  | fuel + 1 => do
    if stops.contains (← peek) then return .missing {}
    else readNode fuel block flush

/-- Reads the items of an indented sequence, up to its end. -/
def readBlockItems (fuel : Nat) : Read (List Node) :=
  match fuel with
  | 0 => fail
  | fuel + 1 => do
    if ← accept .blockEntry then
      let item ← readNodeUnless [.blockEntry, .blockEnd] fuel true false
      return item :: (← readBlockItems fuel)
    else
      expect .blockEnd
      return []

/-- Reads the items of a sequence that is not indented. -/
def readFlushItems (fuel : Nat) : Read (List Node) :=
  match fuel with
  | 0 => fail
  | fuel + 1 => do
    if ← accept .blockEntry then
      let item ← readNodeUnless [.blockEntry, .key, .value, .blockEnd] fuel true false
      return item :: (← readFlushItems fuel)
    else return []

/-- Reads the entries of an indented mapping, up to its end. -/
def readBlockEntries (fuel : Nat) : Read (List (Node × Node)) :=
  match fuel with
  | 0 => fail
  | fuel + 1 => do
    if ← accept .key then
      let key ← readNodeUnless [.key, .value, .blockEnd] fuel true true
      if ← accept .value then
        let value ← readNodeUnless [.key, .value, .blockEnd] fuel true true
        return (key, value) :: (← readBlockEntries fuel)
      else return (key, .missing {}) :: (← readBlockEntries fuel)
    else
      expect .blockEnd
      return []

/-- Reads the one entry of a mapping without brackets within a flow sequence, after the mark of its
key. Where the key is missing, the token after it counts as the key. -/
def readFlowPair (fuel : Nat) : Read (Node × Node) :=
  match fuel with
  | 0 => fail
  | fuel + 1 => do
    let keyless := [Token.value, .flowEntry, .flowSequenceEnd].contains (← peek)
    if keyless then skip
    let key ← if keyless then pure (.missing {}) else readNode fuel false false
    if ← accept .value then
      return (key, ← readNodeUnless [.flowEntry, .flowSequenceEnd] fuel false false)
    else return (key, .missing {})

/-- Reads the items of a flow sequence, up to its end. -/
def readFlowItems (fuel : Nat) (first : Bool) : Read (List Node) :=
  match fuel with
  | 0 => fail
  | fuel + 1 => do
    if ← accept .flowSequenceEnd then return []
    if !first then expect .flowEntry
    if ← accept .key then
      let entry ← readFlowPair fuel
      return .mapping {} [entry] :: (← readFlowItems fuel false)
    else if ← accept .flowSequenceEnd then return []
    else
      let item ← readNode fuel false false
      return item :: (← readFlowItems fuel false)

/-- Reads the entries of a flow mapping, up to its end. -/
def readFlowEntries (fuel : Nat) (first : Bool) : Read (List (Node × Node)) :=
  match fuel with
  | 0 => fail
  | fuel + 1 => do
    if ← accept .flowMappingEnd then return []
    if !first then expect .flowEntry
    if ← accept .key then
      let key ← readNodeUnless [.value, .flowEntry, .flowMappingEnd] fuel false false
      if ← accept .value then
        let value ← readNodeUnless [.flowEntry, .flowMappingEnd] fuel false false
        return (key, value) :: (← readFlowEntries fuel false)
      else return (key, .missing {}) :: (← readFlowEntries fuel false)
    else if ← accept .flowMappingEnd then return []
    else
      let key ← readNode fuel false false
      return (key, .missing {}) :: (← readFlowEntries fuel false)

end

/-! ### Documents -/

/-- The handles that every document knows. -/
def defaultHandles : List (String × String) :=
  [("!", "!"), ("!!", "tag:yaml.org,2002:")]

/-- Reads the directives in front of a document. There may be one version, which has to be known,
and one line for each handle. -/
def readDirectives : Nat → Bool → List (String × String) → Read (List (String × String))
  | 0, _, _ => fail
  | fuel + 1, versioned, handles => do
    match ← peek with
    | .version major minor =>
      skip
      if versioned || major ≠ 1 || (minor ≠ 1 && minor ≠ 2) then fail
      else readDirectives fuel true handles
    | .tagHandle handle lead =>
      skip
      if (handles.lookup handle).isSome then fail
      else readDirectives fuel versioned (handles ++ [(handle, lead)])
    | _ => return handles

/-- The token ends the content of a document, or there is none. -/
def endsContent : Token → Bool
  | .version _ _ | .tagHandle _ _ | .documentStart | .documentEnd | .streamEnd => true
  | _ => false

/-- Reads a document up to the mark after it. Only the first one may do without a mark in front of
it. -/
def readDocument (fuel : Nat) (first : Bool) : Read Node := do
  let explicit := !first || match ← peek with
    | .version _ _ | .tagHandle _ _ | .documentStart => true
    | _ => false
  let node ←
    if explicit then
      let handles ← readDirectives fuel false []
      startDocument (handles ++ defaultHandles)
      expect .documentStart
      if endsContent (← peek) then pure (.missing {}) else readNode fuel true false
    else
      startDocument defaultHandles
      readNode fuel true false
  if (← peek) = .broken then fail
  discard (accept .documentEnd)
  return node

/-- Reads documents up to the end of the text or to one that is malformed. -/
def readDocuments : Nat → Bool → List Token → List (Result Node)
  | 0, _, _ => []
  | fuel + 1, first, tokens =>
    let tokens := if first then tokens else tokens.dropWhile (· = .documentEnd)
    if tokens.head? = some .streamEnd then []
    else match (readDocument (4 * tokens.length + 8) first).run { tokens } with
      | .error fault => [.error fault]
      | .ok (node, reader) => .ok node :: readDocuments fuel false reader.tokens

/-- The documents of a text. After one that is malformed no more are read. -/
def nodesOf (text : String) : List (Result Node) :=
  let tokens := tokensOf text
  readDocuments (tokens.length + 1) true tokens

end TrafficPlane.Yaml
