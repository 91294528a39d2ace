import TrafficPlane.Yaml.ScalarText
import TrafficPlane.Yaml.Token

/-!
# From text to tokens

Indentation and the keys of block mappings show only after the fact: a colon turns what came before
it into a key. So the lexer keeps the places where a key may have started, and puts tokens in front
of what it has read already.

## Main definitions

* `Lexer`: what has been read, and what the indentation is
* `Lexer.step`: reads one more token
* `tokensOf`: the tokens of a text
-/

namespace TrafficPlane.Yaml

/-- A place where a key may have started that is not marked as one. -/
structure SimpleKey where
  /-- Nothing but a key can stand at this place. -/
  required : Bool
  /-- The number of tokens in front of it. -/
  place : Nat
  line : Nat
  column : Nat
  /-- The number of characters from there to the end of the text. -/
  left : Nat
deriving DecidableEq, Repr

/-- What has been read, and what the indentation is. -/
structure Lexer where
  cursor : Cursor
  /-- The tokens read so far, the last one first. -/
  recent : List Token := []
  /-- The number of tokens read so far. -/
  count : Nat := 0
  /-- The column of the innermost block collection. -/
  indent : Int := -1
  /-- The columns of the block collections around it. -/
  outer : List Int := []
  /-- The place where a key may have started, for the block collection and for each flow collection
  within it, the innermost first. -/
  keys : List (Option SimpleKey) := [none]
  /-- A key may start here. -/
  keyAllowed : Bool := true

namespace Lexer

/-- The place is within a flow collection. -/
def inFlow (lexer : Lexer) : Bool :=
  match lexer.keys with
  | _ :: _ :: _ => true
  | _ => false

/-- The lexer with one more token. -/
def push (lexer : Lexer) (token : Token) : Lexer :=
  { lexer with recent := token :: lexer.recent, count := lexer.count + 1 }

/-- The lexer with a token that has a given number of tokens in front of it. -/
def insertAt (lexer : Lexer) (place : Nat) (token : Token) : Lexer :=
  let (after, before) := lexer.recent.splitAt (lexer.count - place)
  { lexer with recent := after ++ token :: before, count := lexer.count + 1 }

/-- The lexer at another place. -/
def moveTo (lexer : Lexer) (cursor : Cursor) : Lexer := { lexer with cursor }

/-- The lexer after a token of some characters. -/
def take (lexer : Lexer) (token : Token) (length : Nat) : Lexer :=
  (lexer.push token).moveTo (lexer.cursor.advanceBy length)

/-- From here on a key may start, or may not. -/
def allowKey (lexer : Lexer) (allowed : Bool) : Lexer := { lexer with keyAllowed := allowed }

/-! ### Indentation -/

/-- Ends the block collections that are deeper than a column. -/
def unindent (lexer : Lexer) (column : Int) : Lexer :=
  let rec close (lexer : Lexer) : List Int → Lexer
    | [] => { lexer with outer := [] }
    | around :: outer =>
      if column < lexer.indent then close { lexer.push .blockEnd with indent := around } outer
      else { lexer with outer := around :: outer }
  if lexer.inFlow then lexer else close lexer lexer.outer

/-- Starts a block collection at a column that is deeper than the one around it, in front of the
tokens after the given place. -/
def indentTo (lexer : Lexer) (column place : Nat) (start : Token) : Lexer :=
  if lexer.inFlow || column ≤ lexer.indent then lexer
  else
    { lexer.insertAt place start with
      indent := column
      outer := lexer.indent :: lexer.outer }

/-- Starts a block collection at the place of the cursor. -/
def indentHere (lexer : Lexer) (start : Token) : Lexer :=
  lexer.indentTo lexer.cursor.column lexer.count start

/-! ### Keys -/

/-- A key can no longer have started at an earlier line or too far back. -/
def isStale (cursor : Cursor) (key : SimpleKey) : Bool :=
  key.line < cursor.line || cursor.left + 1024 < key.left

/-- Gives up the place of the innermost key if it is too far back. -/
def dropStaleKey (lexer : Lexer) : Result Lexer :=
  match lexer.keys with
  | some key :: keys =>
    if !isStale lexer.cursor key then .ok lexer
    else if key.required then malformed
    else .ok { lexer with keys := none :: keys }
  | _ => .ok lexer

/-- Gives up the place of the innermost key. -/
def dropKey (lexer : Lexer) : Result Lexer :=
  match lexer.keys with
  | some key :: keys =>
    if key.required then malformed else .ok { lexer with keys := none :: keys }
  | _ => .ok lexer

/-- Keeps this place as one where a key may have started, if a key may start here. -/
def keepKey (lexer : Lexer) : Result Lexer :=
  if !lexer.keyAllowed then .ok lexer
  else do
    let lexer ← lexer.dropKey
    let cursor := lexer.cursor
    let key : SimpleKey := {
      required := !lexer.inFlow && lexer.indent == (cursor.column : Int)
      place := lexer.count
      line := cursor.line
      column := cursor.column
      left := cursor.left }
    return { lexer with keys := some key :: lexer.keys.tail }

/-! ### Tokens -/

/-- Ends everything that is open between documents. -/
def endDocument (lexer : Lexer) : Result Lexer := do
  let lexer ← (lexer.unindent (-1)).dropKey
  return lexer.allowKey false

/-- Reads a mark between documents. -/
def readMark (lexer : Lexer) (token : Token) : Result Lexer := do
  return (← lexer.endDocument).take token 3

/-- Reads the start of a flow collection. -/
def openFlow (lexer : Lexer) (token : Token) : Result Lexer := do
  let lexer ← lexer.keepKey
  return { (lexer.take token 1).allowKey true with keys := none :: lexer.keys }

/-- Reads the end of a flow collection. -/
def closeFlow (lexer : Lexer) (token : Token) : Result Lexer := do
  let lexer ← lexer.dropKey
  let keys := if lexer.inFlow then lexer.keys.tail else lexer.keys
  return { (lexer.take token 1).allowKey false with keys }

/-- Reads a comma between the items of a flow collection. -/
def readFlowEntry (lexer : Lexer) : Result Lexer := do
  return ((← lexer.dropKey).allowKey true).take .flowEntry 1

/-- Reads an indicator that may start a block collection. In such a collection it has to stand where
a key may start. -/
def readIndicator (lexer : Lexer) (start token : Token) (allowed : Bool) : Result Lexer := do
  if !lexer.inFlow && !lexer.keyAllowed then malformed
  else return ((← (lexer.indentHere start).dropKey).allowKey allowed).take token 1

/-- Reads a colon. What started at the place of the innermost key turns out to be a key. -/
def readValue (lexer : Lexer) : Result Lexer :=
  match lexer.keys with
  | some key :: keys =>
    let lexer := (lexer.insertAt key.place .key).indentTo key.column key.place .blockMappingStart
    .ok (({ lexer with keys := none :: keys }.allowKey false).take .value 1)
  | _ =>
    if !lexer.inFlow && !lexer.keyAllowed then malformed
    else .ok (((lexer.indentHere .blockMappingStart).allowKey !lexer.inFlow).take .value 1)

/-- Reads a token that may be a key. -/
def readNodePart (lexer : Lexer) (read : Cursor → Result (Token × Cursor)) : Result Lexer := do
  let lexer ← lexer.keepKey
  let (token, cursor) ← read lexer.cursor
  return ((lexer.allowKey false).push token).moveTo cursor

/-- Reads a quoted scalar. -/
def readQuotedScalar (single : Bool) (cursor : Cursor) : Result (Token × Cursor) := do
  let (text, cursor) ← readQuoted single cursor
  return (.scalar (.ofList text) false, cursor)

/-- Reads a block scalar, after which a key may start. -/
def readBlockScalar (lexer : Lexer) (literal : Bool) : Result Lexer := do
  let lexer ← lexer.dropKey
  let (text, cursor) ← readBlock literal lexer.indent lexer.cursor
  return ((lexer.allowKey true).push (.scalar (.ofList text) false)).moveTo cursor

/-- Reads a plain scalar. After a line end at its end a key may start. -/
def readPlainScalar (lexer : Lexer) : Result Lexer := do
  let lexer ← lexer.keepKey
  let (text, cursor, crossed) ← readPlain lexer.inFlow lexer.indent lexer.cursor
  return ((lexer.allowKey crossed).push (.scalar (.ofList text) true)).moveTo cursor

/-- Reads a directive. -/
def readDirectiveLine (lexer : Lexer) : Result Lexer := do
  let lexer ← lexer.endDocument
  let (token, cursor) ← readDirective lexer.cursor
  return (lexer.push token).moveTo cursor

/-- Passes over blanks, comments and line ends. A tab is no blank where a key may start. -/
def skipGap : Nat → Lexer → Lexer
  | 0, lexer => lexer
  | fuel + 1, lexer =>
    let cursor := lexer.cursor
    let cursor :=
      if cursor.column == 0 && cursor.rest.head? == some byteOrderMark then cursor.advance
      else cursor
    let cursor := cursor.skipWhile fun c =>
      c == ' ' || (c == '\t' && (lexer.inFlow || !lexer.keyAllowed))
    let cursor :=
      if cursor.rest.head? == some '#' then cursor.skipWhile (fun c => !isLineEnd c) else cursor
    if cursor.rest.head?.any isLineEnd then
      skipGap fuel ((lexer.allowKey (lexer.keyAllowed || !lexer.inFlow)).moveTo cursor.advanceLine)
    else lexer.moveTo cursor

/-- The characters that cannot start a plain scalar by themselves. -/
def indicators : List Char := "\t-?:,[]\x7b\x7d#&*!|>'\"%@\x60".toList

/-- Reads the token that starts with a character in front of the given rest. -/
def readToken (lexer : Lexer) (c : Char) (rest : List Char) : Result Lexer :=
  let flow := lexer.inFlow
  let gap := atGap rest
  if lexer.cursor.column == 0 && c == '%' then lexer.readDirectiveLine
  else if lexer.cursor.atMark '-' then lexer.readMark .documentStart
  else if lexer.cursor.atMark '.' then lexer.readMark .documentEnd
  else if c == '[' then lexer.openFlow .flowSequenceStart
  else if c == '\x7b' then lexer.openFlow .flowMappingStart
  else if c == ']' then lexer.closeFlow .flowSequenceEnd
  else if c == '\x7d' then lexer.closeFlow .flowMappingEnd
  else if c == ',' then lexer.readFlowEntry
  else if c == '-' && gap then lexer.readIndicator .blockSequenceStart .blockEntry true
  else if c == '?' && (flow || gap) then lexer.readIndicator .blockMappingStart .key !flow
  else if c == ':' && (flow || gap) then lexer.readValue
  else if c == '*' then lexer.readNodePart (readAnchor .alias)
  else if c == '&' then lexer.readNodePart (readAnchor .anchor)
  else if c == '!' then lexer.readNodePart (readTag flow)
  else if c == '|' && !flow then lexer.readBlockScalar true
  else if c == '>' && !flow then lexer.readBlockScalar false
  else if c == '\'' then lexer.readNodePart (readQuotedScalar true)
  else if c == '"' then lexer.readNodePart (readQuotedScalar false)
  else if !indicators.contains c || (c == '-' && !rest.head?.any isSpacing) ||
      (!flow && (c == '?' || c == ':') && !gap) then lexer.readPlainScalar
  else malformed

/-- Reads one more token. At the end of the text there is none. -/
def step (lexer : Lexer) : Result (Lexer × Bool) := do
  let lexer := lexer.skipGap (lexer.cursor.left + 1)
  let lexer ← lexer.dropStaleKey
  let lexer := lexer.unindent lexer.cursor.column
  match lexer.cursor.rest with
  | [] => return ((← lexer.endDocument).push .streamEnd, true)
  | c :: rest => return (← lexer.readToken c rest, false)

/-- Reads all tokens. -/
def run : Nat → Lexer → Lexer
  | 0, lexer => lexer.push .broken
  | fuel + 1, lexer =>
    match lexer.step with
    | .ok (lexer, true) => lexer
    | .ok (lexer, false) => run fuel lexer
    | .error _ => lexer.push .broken

end Lexer

/-- The tokens of a text. -/
def tokensOf (text : String) : List Token :=
  let rest := match text.toList with
    | c :: rest => if c = byteOrderMark then rest else c :: rest
    | [] => []
  if rest.all isAllowed then
    (Lexer.run (rest.length + 1) { cursor := .start rest }).recent.reverse
  else [.broken]

end TrafficPlane.Yaml
