/-!
# Places in a YAML text

A cursor is a place in a text, with its line and its column. Line ends come in five spellings, of
which three are read as the same line feed.

## Main definitions

* `Cursor`: a place in a text
* `Cursor.advance`, `Cursor.advanceLine`: go over one character or one line end
* `isAllowed`: the characters that a text may hold
-/

namespace TrafficPlane.Yaml

/-- The text is no YAML. -/
structure Malformed where
deriving Repr, DecidableEq

/-- A place in a text. -/
structure Cursor where
  rest : List Char
  /-- The number of characters in the rest. -/
  left : Nat
  line : Nat := 0
  column : Nat := 0

/-- Results of reading. -/
abbrev Result (α : Type) := Except Malformed α

/-- The text is no YAML. -/
def malformed {α : Type} : Result α := .error {}

/-- The characters that a text may hold. -/
def isAllowed (c : Char) : Bool :=
  let n := c.toNat
  n == 0x9 || n == 0xA || n == 0xD || (0x20 ≤ n && n ≤ 0x7E) || n == 0x85 ||
    (0xA0 ≤ n && n ≤ 0xD7FF) || (0xE000 ≤ n && n ≤ 0xFFFD) || 0x10000 ≤ n

/-- The mark that may stand in front of a line to tell the order of bytes. -/
def byteOrderMark : Char := '\uFEFF'

/-- A blank within a line. -/
def isSpacing (c : Char) : Bool := c == ' ' || c == '\t'

/-- The end of a line. -/
def isLineEnd (c : Char) : Bool :=
  c == '\n' || c == '\r' || c == '\u0085' || c == '\u2028' || c == '\u2029'

/-- A character of a word in directives, anchors and tags. -/
def isWordChar (c : Char) : Bool := c.isAlphanum || c == '-' || c == '_'

/-- The text ends here, or a blank or a line end comes next. -/
def atGap : List Char → Bool
  | [] => true
  | c :: _ => isSpacing c || isLineEnd c

/-- The text or the line ends here. -/
def atLineEnd : List Char → Bool
  | [] => true
  | c :: _ => isLineEnd c

namespace Cursor

/-- The place in front of a text. -/
def start (text : List Char) : Cursor where
  rest := text
  left := text.length

/-- The cursor after one character. -/
def advance (cursor : Cursor) : Cursor :=
  { cursor with
    rest := cursor.rest.tail, left := cursor.left - 1, column := cursor.column + 1 }

/-- The cursor after a number of characters. -/
def advanceBy (cursor : Cursor) (n : Nat) : Cursor :=
  { cursor with
    rest := cursor.rest.drop n, left := cursor.left - n, column := cursor.column + n }

/-- The cursor after a line end. -/
def advanceLine (cursor : Cursor) : Cursor :=
  match cursor.rest with
  | '\r' :: '\n' :: rest =>
    { rest, left := cursor.left - 2, line := cursor.line + 1 }
  | _ :: rest => { rest, left := cursor.left - 1, line := cursor.line + 1 }
  | [] => cursor

/-- The line end at the cursor as it counts in a scalar. -/
def lineEnd (cursor : Cursor) : List Char :=
  match cursor.rest with
  | '\u2028' :: _ => ['\u2028']
  | '\u2029' :: _ => ['\u2029']
  | c :: _ => if isLineEnd c then ['\n'] else []
  | [] => []

/-- The cursor after the characters at the front for which a test holds. -/
def skipWhile (cursor : Cursor) (test : Char → Bool) : Cursor :=
  cursor.advanceBy (cursor.rest.takeWhile test).length

/-- The characters at the front for which a test holds. -/
def wordOf (cursor : Cursor) (test : Char → Bool) : List Char :=
  cursor.rest.takeWhile test

/-- At the front of a line stands a mark of three characters, with a gap after it. -/
def atMark (cursor : Cursor) (c : Char) : Bool :=
  cursor.column == 0 &&
    match cursor.rest with
    | a :: b :: d :: rest => a == c && b == c && d == c && atGap rest
    | _ => false

/-- A mark between documents. -/
def atDocumentMark (cursor : Cursor) : Bool :=
  cursor.atMark '-' || cursor.atMark '.'

end Cursor

end TrafficPlane.Yaml
