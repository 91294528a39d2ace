import TrafficPlane.Text.Digit
import TrafficPlane.Yaml.Cursor

/-!
# Texts of scalars

How the text of a scalar is read in each of its styles: plain, quoted, or as a block of lines.
Lines are folded: a single line end between two lines of text counts as a space, and of several the
first is dropped.

## Main definitions

* `readPlain`, `readQuoted`, `readBlock`: the text of a scalar and the place after it
-/

namespace TrafficPlane.Yaml

open Text

/-- What stands between two stretches of text: blanks within a line, or line ends. -/
structure Separation where
  spacing : List Char := []
  /-- A line has ended. -/
  crossed : Bool := false
  first : List Char := []
  more : List Char := []

namespace Separation

/-- The text that line ends leave after folding. -/
def folded (s : Separation) : List Char :=
  if s.first.head? == some '\n' then
    if s.more.isEmpty then [' '] else s.more
  else s.first ++ s.more

/-- The text that the separation leaves. -/
def text (s : Separation) : List Char :=
  if s.crossed then s.folded else s.spacing

/-- One more line end. -/
def addLineEnd (s : Separation) (lineEnd : List Char) : Separation :=
  if s.crossed then { s with more := s.more ++ lineEnd }
  else { s with crossed := true, spacing := [], first := lineEnd }

end Separation

/-- Reads blanks and line ends. In a plain scalar a tab may not stand where indentation is expected,
that is in front of column `indent`. -/
def readSeparation (indent : Option Int) : Nat → Separation → Cursor → Result (Separation × Cursor)
  | 0, s, cursor => .ok (s, cursor)
  | fuel + 1, s, cursor =>
    match cursor.rest with
    | [] => .ok (s, cursor)
    | c :: _ =>
      if isSpacing c then
        if c == '\t' && s.crossed && indent.any ((cursor.column : Int) < ·) then malformed
        else
          let s := if s.crossed then s else { s with spacing := s.spacing ++ [c] }
          readSeparation indent fuel s cursor.advance
      else if isLineEnd c then
        readSeparation indent fuel (s.addLineEnd cursor.lineEnd) cursor.advanceLine
      else .ok (s, cursor)

/-! ### Plain scalars -/

/-- A character that ends an item of a flow collection. -/
def isFlowEnd (c : Char) : Bool :=
  c == ',' || c == '[' || c == ']' || c == '\x7b' || c == '\x7d'

/-- The characters of a plain scalar up to a gap or to something that ends the scalar. -/
def readPlainWord (inFlow : Bool) : List Char → Result (List Char)
  | [] => .ok []
  | c :: rest =>
    if isSpacing c || isLineEnd c then .ok []
    else if inFlow && c == ':' && rest.head?.any (fun d => isFlowEnd d || d == '?') then malformed
    else if c == ':' && atGap rest then .ok []
    else if inFlow && isFlowEnd c then .ok []
    else match readPlainWord inFlow rest with
      | .ok word => .ok (c :: word)
      | .error e => .error e

/-- Reads a plain scalar: its text with the last character first, the place after it, and whether
a line ended last. -/
def readPlainFrom (inFlow : Bool) (indent : Int) :
    Nat → List Char → Separation → Cursor → Result (List Char × Cursor × Bool)
  | 0, _, _, _ => malformed
  | fuel + 1, text, s, cursor =>
    if cursor.atDocumentMark || cursor.rest.head? == some '#' then .ok (text, cursor, s.crossed)
    else do
      let word ← readPlainWord inFlow cursor.rest
      let (text, s) :=
        if word.isEmpty then (text, s) else (word.reverse ++ (s.text.reverse ++ text), {})
      let cursor := cursor.advanceBy word.length
      if cursor.rest.isEmpty || !atGap cursor.rest then return (text, cursor, s.crossed)
      let (s, cursor) ← readSeparation (some indent) cursor.left s cursor
      if !inFlow && (cursor.column : Int) < indent then return (text, cursor, s.crossed)
      readPlainFrom inFlow indent fuel text s cursor

/-- Reads a plain scalar in a collection with the given indentation. -/
def readPlain (inFlow : Bool) (indent : Int) (cursor : Cursor) :
    Result (List Char × Cursor × Bool) := do
  let (text, cursor, crossed) ← readPlainFrom inFlow (indent + 1) (cursor.left + 1) [] {} cursor
  return (text.reverse, cursor, crossed)

/-! ### Quoted scalars -/

/-- The character that an escape of one letter stands for. -/
def escapedChar? : Char → Option Char
  | '0' => some '\x00'
  | 'a' => some '\x07'
  | 'b' => some '\x08'
  | 't' => some '\t'
  | '\t' => some '\t'
  | 'n' => some '\n'
  | 'v' => some '\x0b'
  | 'f' => some '\x0c'
  | 'r' => some '\r'
  | 'e' => some '\x1b'
  | ' ' => some ' '
  | '"' => some '"'
  | '/' => some '/'
  | '\\' => some '\\'
  | 'N' => some '\u0085'
  | '_' => some '\u00A0'
  | 'L' => some '\u2028'
  | 'P' => some '\u2029'
  | _ => none

/-- The number of digits in an escape of a code point. -/
def escapeWidth? : Char → Option Nat
  | 'x' => some 2
  | 'u' => some 4
  | 'U' => some 8
  | _ => none

/-- The character whose code point is written with these digits. -/
def charOfHex (digits : List Char) : Result Char := do
  let code ← digits.foldlM (fun n c => match hexDigit? c with
    | some d => .ok (16 * n + d)
    | none => malformed) 0
  if code.isValidChar then return .ofNat code else malformed

/-- Reads an escape, after its backslash: the character and the number of characters read. -/
def readEscape (rest : List Char) : Result (Char × Nat) :=
  match rest with
  | [] => malformed
  | c :: rest =>
    match escapedChar? c, escapeWidth? c with
    | some d, _ => .ok (d, 1)
    | none, some width =>
      if rest.length < width then malformed
      else do return (← charOfHex (rest.take width), width + 1)
    | none, none => malformed

/-- How a stretch of a quoted scalar ends. -/
inductive StretchEnd where
  | gap
  | quote
  | escapedLineEnd

/-- Reads a stretch of a quoted scalar without blanks and line ends, after a text whose last
character comes first. -/
def readStretch (single : Bool) :
    Nat → List Char → Cursor → Result (List Char × Cursor × StretchEnd)
  | 0, _, _ => malformed
  | fuel + 1, text, cursor =>
    match cursor.rest with
    | [] => .ok (text, cursor, .gap)
    | c :: rest =>
      if isSpacing c || isLineEnd c then .ok (text, cursor, .gap)
      else if single then
        if c == '\'' then
          if rest.head? == some '\'' then
            readStretch single fuel ('\'' :: text) (cursor.advanceBy 2)
          else .ok (text, cursor, .quote)
        else readStretch single fuel (c :: text) cursor.advance
      else if c == '"' then .ok (text, cursor, .quote)
      else if c == '\\' then
        if rest.head?.any isLineEnd then .ok (text, cursor.advance.advanceLine, .escapedLineEnd)
        else do
          let (d, n) ← readEscape rest
          readStretch single fuel (d :: text) (cursor.advanceBy (n + 1))
      else readStretch single fuel (c :: text) cursor.advance

/-- Reads a quoted scalar, after its opening quote and a text whose last character comes first. The
result has the last character first, too. -/
def readQuotedFrom (single : Bool) : Nat → List Char → Cursor → Result (List Char × Cursor)
  | 0, _, _ => malformed
  | fuel + 1, text, cursor =>
    if cursor.atDocumentMark || cursor.rest.isEmpty then malformed
    else do
      let (text, cursor, stop) ← readStretch single (cursor.left + 1) text cursor
      let separate (s : Separation) : Result (List Char × Cursor) := do
        let (s, cursor) ← readSeparation none cursor.left s cursor
        readQuotedFrom single fuel (s.text.reverse ++ text) cursor
      match stop with
      | .quote => return (text, cursor.advance)
      | .gap => separate {}
      | .escapedLineEnd =>
        match cursor.rest with
        | '"' :: _ => return (text, cursor.advance)
        | _ => separate { crossed := true }

/-- Reads a quoted scalar, with its quotes. -/
def readQuoted (single : Bool) (cursor : Cursor) : Result (List Char × Cursor) := do
  let (text, cursor) ← readQuotedFrom single (cursor.left + 1) [] cursor.advance
  return (text.reverse, cursor)

/-! ### Block scalars -/

/-- What becomes of the line ends at the end of a block. -/
inductive Chomping where
  | strip
  | clip
  | keep
deriving DecidableEq

/-- The front of a block scalar. -/
structure BlockHeader where
  chomping : Chomping := .clip
  increment : Option Nat := none

/-- The chomping that a character asks for. -/
def chomping? : Char → Option Chomping
  | '+' => some .keep
  | '-' => some .strip
  | _ => none

/-- Reads the indicators of a block scalar, in either order. Zero is no indentation. -/
def readBlockHeader (cursor : Cursor) : Result (BlockHeader × Cursor) :=
  let increment (header : BlockHeader) (cursor : Cursor) : Result (BlockHeader × Cursor) :=
    match cursor.rest with
    | c :: _ =>
      if c == '0' then malformed
      else if c.isDigit then
        .ok ({ header with increment := some (c.toNat - 48) }, cursor.advance)
      else .ok (header, cursor)
    | [] => .ok (header, cursor)
  match cursor.rest.head?.bind chomping? with
  | some chomping => increment { chomping } cursor.advance
  | none => do
    let (header, cursor) ← increment {} cursor
    match header.increment, cursor.rest.head?.bind chomping? with
    | some _, some chomping => return ({ header with chomping }, cursor.advance)
    | _, _ => return (header, cursor)

/-- Reads the empty lines at the front of a block's line, up to its indentation. While that is not
known, `widest` is the largest column of an empty line so far. -/
def readBlockBreaks (indent : Option Nat) :
    Nat → List Char → Nat → Cursor → Result (List Char × Nat × Cursor)
  | 0, breaks, widest, cursor => .ok (breaks, widest, cursor)
  | fuel + 1, breaks, widest, cursor =>
    let limit := indent.getD (cursor.column + cursor.left)
    let spaces := (cursor.rest.takeWhile (· == ' ')).length
    let cursor := cursor.advanceBy (min spaces (limit - cursor.column))
    let widest := max widest cursor.column
    let short := indent.all (cursor.column < ·)
    match cursor.rest with
    | c :: _ =>
      if short && c == '\t' then malformed
      else if isLineEnd c then
        readBlockBreaks indent fuel (breaks ++ cursor.lineEnd) widest cursor.advanceLine
      else .ok (breaks, widest, cursor)
    | [] => .ok (breaks, widest, cursor)

/-- The lines of a block read so far. -/
structure BlockText where
  /-- The text, the last character first. -/
  text : List Char := []
  lineEnd : List Char := []
  breaks : List Char := []
  afterBlank : Bool := false

/-- Reads the lines of a block. -/
def readBlockLines (literal : Bool) (indent : Nat) :
    Nat → BlockText → Cursor → Result (BlockText × Cursor)
  | 0, _, _ => malformed
  | fuel + 1, block, cursor =>
    if cursor.column != indent || cursor.rest.isEmpty then .ok (block, cursor)
    else do
      let blank := cursor.rest.head?.any isSpacing
      let fold :=
        !literal && block.lineEnd.head? == some '\n' && !block.afterBlank && !blank
      let joint :=
        if fold then (if block.breaks.isEmpty then [' '] else []) else block.lineEnd
      let line := cursor.wordOf fun c => !isLineEnd c
      let ended := cursor.advanceBy line.length
      let (breaks, _, next) ←
        readBlockBreaks (some indent) (ended.left + 1) [] 0 ended.advanceLine
      readBlockLines literal indent fuel {
        text := line.reverse ++ ((joint ++ block.breaks).reverse ++ block.text)
        lineEnd := ended.lineEnd
        breaks
        afterBlank := blank } next

/-- Reads a block scalar, with its indicator, in a collection with the given indentation. -/
def readBlock (literal : Bool) (indent : Int) (cursor : Cursor) : Result (List Char × Cursor) := do
  let (header, cursor) ← readBlockHeader cursor.advance
  let cursor := cursor.skipWhile isSpacing
  let cursor :=
    if cursor.rest.head? == some '#' then cursor.skipWhile (fun c => !isLineEnd c) else cursor
  if !atLineEnd cursor.rest then malformed
  else
    let cursor := cursor.advanceLine
    let given := header.increment.map fun n => (max indent 0).toNat + n
    let (breaks, widest, cursor) ← readBlockBreaks given (cursor.left + 1) [] 0 cursor
    let width := given.getD (max widest (max (indent + 1) 1).toNat)
    let (block, cursor) ← readBlockLines literal width (cursor.left + 1) { breaks } cursor
    let tail := match header.chomping with
      | .strip => []
      | .clip => block.lineEnd
      | .keep => block.lineEnd ++ block.breaks
    return (block.text.reverse ++ tail, cursor)

end TrafficPlane.Yaml
