import TrafficPlane.Regex.NamedClass
import TrafficPlane.Regex.Pattern
import TrafficPlane.Text.Blank
import TrafficPlane.Text.Digit

/-!
# Escapes in patterns

Reading of what follows a backslash: literal characters, classes and assertions. All readers take
the rest of a pattern and return what they have read with what is left.

## Main definitions

* `Malformed`: the only answer to a text that is no pattern
* `skipBlanks`: passes over blanks and comments where a pattern is written with them
* `Primitive`: what an escape stands for, before the flags of the pattern are applied
* `Primitive.read`: reads an escape
-/

namespace TrafficPlane.Regex

open Text

/-- The text is no pattern. -/
structure Malformed where
deriving Repr, DecidableEq

/-- A reader of part of a pattern. -/
abbrev Reader (α : Type) := List Char → Except Malformed (α × List Char)

/-- Passes over blanks and over comments, which run from a hash sign to the end of the line. -/
def skipComments (inComment : Bool) : List Char → List Char
  | [] => []
  | c :: rest =>
    if inComment then skipComments (c != '\n') rest
    else if isBlank c then skipComments false rest
    else if c = '#' then skipComments true rest
    else c :: rest

/-- In a pattern that is written with blanks and comments, passes over them. -/
def skipBlanks (spaced : Bool) (cs : List Char) : List Char :=
  if spaced then skipComments false cs else cs

/-- The classes with a letter of their own. -/
inductive LetterClass where
  | digit
  | space
  | word

/-- The kinds of assertions in a pattern. -/
inductive AssertionKind where
  | lineStart
  | lineEnd
  | textStart
  | textEnd
  | wordEdge
  | notWordEdge
  | wordStart
  | wordEnd
  | wordStartHalf
  | wordEndHalf

/-- What an escape, or a character without one, stands for. -/
inductive Primitive where
  /-- A literal character; `byteForm` says that it is written as two digits in base sixteen. -/
  | literal (c : Char) (byteForm : Bool)
  | letter (cls : LetterClass) (negated : Bool)
  | property (query : ClassQuery) (negated : Bool)
  | assertion (kind : AssertionKind)

/-- The character with a code point given by digits in base sixteen. -/
def charOfDigits (digits : List Nat) : Except Malformed Char :=
  let code := digits.foldl (fun n d => 16 * n + d) 0
  if digits.isEmpty then .error {}
  else if code.isValidChar then .ok (Char.ofNat code) else .error {}

/-- A given number of digits in base sixteen. -/
def readDigits (spaced : Bool) : Nat → List Nat → Reader (List Nat)
  | 0, digits, cs => .ok (digits, cs)
  | _ + 1, _, [] => .error {}
  | n + 1, digits, c :: rest =>
    match hexDigit? c with
    | some d => readDigits spaced n (digits ++ [d]) (skipBlanks spaced rest)
    | none => .error {}

/-- The text up to a closing brace, and what follows the brace. Where a pattern is written with
blanks and comments, they are left out. -/
def readBraced (spaced inComment : Bool) : Reader (List Char)
  | [] => .error {}
  | c :: rest =>
    if inComment then readBraced spaced (c != '\n') rest
    else if spaced && isBlank c then readBraced spaced false rest
    else if spaced && c == '#' then readBraced spaced true rest
    else if c = '}' then .ok ([], rest)
    else match readBraced spaced false rest with
      | .ok (content, left) => .ok (c :: content, left)
      | .error e => .error e

/-- Digits in base sixteen and nothing else. -/
def allDigits (content : List Char) : Except Malformed (List Nat) :=
  content.mapM fun c =>
    match hexDigit? c with
    | some d => .ok d
    | none => .error {}

/-- A literal character by its code point, after the letter that says how many digits it has. -/
def readCodePoint (spaced : Bool) (width : Nat) (cs : List Char) :
    Except Malformed (Primitive × List Char) :=
  match skipBlanks spaced cs with
  | [] => .error {}
  | '{' :: rest => do
    let (content, left) ← readBraced spaced false rest
    let c ← charOfDigits (← allDigits content)
    return (.literal c false, left)
  | rest => do
    let (digits, left) ← readDigits spaced width [] rest
    let c ← charOfDigits digits
    return (.literal c (width == 2), left)

/-- A text cut at the first place where a separator starts. -/
def cutAt (separator : List Char) : List Char → Option (List Char × List Char)
  | [] => none
  | c :: rest =>
    if separator.isPrefixOf (c :: rest) then some ([], (c :: rest).drop separator.length)
    else (cutAt separator rest).map fun (a, b) => (c :: a, b)

/-- The query that is written between braces. -/
def queryOfBraced (content : List Char) : ClassQuery :=
  match cutAt ['!', '='] content <|> cutAt [':'] content <|> cutAt ['='] content with
  | some (property, value) => .valued (.ofList property) (.ofList value)
  | none => .named (.ofList content)

/-- A named class, after its letter. -/
def readProperty (spaced negated : Bool) (cs : List Char) :
    Except Malformed (Primitive × List Char) :=
  match skipBlanks spaced cs with
  | [] => .error {}
  | '\\' :: _ => .error {}
  | '{' :: rest => do
    let (content, left) ← readBraced spaced false rest
    return (.property (queryOfBraced content) negated, left)
  | c :: rest => .ok (.property (.named c.toString) negated, rest)

/-- The letters of the name of a special word boundary, and what follows them. -/
def boundaryName (spaced inComment : Bool) : List Char → List Char × List Char
  | [] => ([], [])
  | c :: rest =>
    if inComment then boundaryName spaced (c != '\n') rest
    else if spaced && isBlank c then boundaryName spaced false rest
    else if spaced && c == '#' then boundaryName spaced true rest
    else if c.isAlpha || c == '-' then
      let (name, left) := boundaryName spaced false rest
      (c :: name, left)
    else ([], c :: rest)

/-- The assertion after `\b`, which a name in braces makes more precise. Braces that start with no
letter belong to a repetition. -/
def readBoundary (spaced : Bool) (cs : List Char) : Except Malformed (Primitive × List Char) :=
  match cs with
  | '{' :: rest =>
    match skipBlanks spaced rest with
    | [] => .error {}
    | c :: inner =>
      if c.isAlpha || c == '-' then
        match boundaryName spaced false (c :: inner) with
        | (name, '}' :: left) =>
          match String.ofList name with
          | "start" => .ok (.assertion .wordStart, left)
          | "end" => .ok (.assertion .wordEnd, left)
          | "start-half" => .ok (.assertion .wordStartHalf, left)
          | "end-half" => .ok (.assertion .wordEndHalf, left)
          | _ => .error {}
        | _ => .error {}
      else .ok (.assertion .wordEdge, cs)
  | _ => .ok (.assertion .wordEdge, cs)

/-- A punctuation character or control of ASCII, which a backslash leaves as it is. The angle
brackets are not among them. -/
def isEscapable (c : Char) : Bool :=
  c.toNat < 128 && !c.isAlphanum && c != '<' && c != '>'

/-- Reads an escape, after its backslash. -/
def Primitive.read (spaced : Bool) : Reader Primitive
  | [] => .error {}
  | 'x' :: rest => readCodePoint spaced 2 rest
  | 'u' :: rest => readCodePoint spaced 4 rest
  | 'U' :: rest => readCodePoint spaced 8 rest
  | 'p' :: rest => readProperty spaced false rest
  | 'P' :: rest => readProperty spaced true rest
  | 'b' :: rest => readBoundary spaced rest
  | c :: rest =>
    if isEscapable c then .ok (.literal c false, rest)
    else match c with
      | 'd' => .ok (.letter .digit false, rest)
      | 's' => .ok (.letter .space false, rest)
      | 'w' => .ok (.letter .word false, rest)
      | 'D' => .ok (.letter .digit true, rest)
      | 'S' => .ok (.letter .space true, rest)
      | 'W' => .ok (.letter .word true, rest)
      | 'a' => .ok (.literal '\x07' false, rest)
      | 'f' => .ok (.literal '\x0c' false, rest)
      | 't' => .ok (.literal '\t' false, rest)
      | 'n' => .ok (.literal '\n' false, rest)
      | 'r' => .ok (.literal '\r' false, rest)
      | 'v' => .ok (.literal '\x0b' false, rest)
      | 'A' => .ok (.assertion .textStart, rest)
      | 'z' => .ok (.assertion .textEnd, rest)
      | 'B' => .ok (.assertion .notWordEdge, rest)
      | '<' => .ok (.assertion .wordStart, rest)
      | '>' => .ok (.assertion .wordEnd, rest)
      | _ => .error {}

end TrafficPlane.Regex
