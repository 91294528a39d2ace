import TrafficPlane.Regex.Bracket

/-!
# Reading patterns

A pattern is read character by character, with the groups that are open on a stack. Reading fails on
a text that is no pattern, and on one that nests too deeply.

## Main definitions

* `Parse`: what has been read so far
* `Parse.step`: goes on by one element of the pattern
* `parse`: the pattern that a text describes
-/

namespace TrafficPlane.Regex

open Text Unicode

/-- One element of a sequence. Flags that are set on their own cannot be repeated. -/
structure Element where
  pattern : Pattern Atom
  depth : Nat := 0
  repeatable : Bool := true

/-- A group under construction: the elements of the branch that is open and the branches before it,
both with the last one first. -/
structure OpenGroup where
  elements : List Element := []
  branches : List (Nested (Pattern Atom)) := []

namespace OpenGroup

/-- The group with one more element. -/
def push (group : OpenGroup) (element : Element) : OpenGroup :=
  { group with elements := element :: group.elements }

/-- The elements of the open branch as one pattern. -/
def sequence (group : OpenGroup) : Nested (Pattern Atom) :=
  match group.elements with
  | [] => ⟨.empty, 0⟩
  | [element] => ⟨element.pattern, element.depth⟩
  | last :: before =>
    ⟨before.foldl (fun p element => .cat element.pattern p) last.pattern,
      1 + before.foldl (fun n element => max n element.depth) last.depth⟩

/-- The group with its open branch ended. -/
def endBranch (group : OpenGroup) : OpenGroup :=
  { branches := group.sequence :: group.branches }

/-- All branches as one pattern. -/
def finish (group : OpenGroup) : Nested (Pattern Atom) :=
  match group.branches with
  | [] => group.sequence
  | branches =>
    let last := group.sequence
    ⟨branches.foldl (fun p branch => .alt branch.value p) last.value,
      1 + branches.foldl (fun n branch => max n branch.depth) last.depth⟩

end OpenGroup

/-- What has been read so far. The stack holds the groups around the open one, each with the flags
that come back when the open group ends. -/
structure Parse where
  rest : List Char
  flags : Flags := {}
  names : List (List Char) := []
  group : OpenGroup := {}
  outer : List (OpenGroup × Flags) := []

/-- A class as an atom. -/
def Pattern.ofClass (cls : CharClass) : Pattern Atom := .atom (.char cls)

namespace Flags

/-- The assertion under flags. -/
def assertion (flags : Flags) : AssertionKind → Assertion
  | .lineStart => if flags.multiLine then .lineStart flags.crlf else .textStart
  | .lineEnd => if flags.multiLine then .lineEnd flags.crlf else .textEnd
  | .textStart => .textStart
  | .textEnd => .textEnd
  | .wordEdge => .wordEdge flags.unicode
  | .notWordEdge => .notWordEdge flags.unicode
  | .wordStart => .wordStart flags.unicode
  | .wordEnd => .wordEnd flags.unicode
  | .wordStartHalf => .wordStartHalf flags.unicode
  | .wordEndHalf => .wordEndHalf flags.unicode

/-- A literal character or an escape as a pattern. Without Unicode, two digits in base sixteen are a
byte, and one outside ASCII is no text. -/
def primitive (flags : Flags) : Primitive → Except Malformed (Pattern Atom)
  | .literal c byteForm =>
    if !flags.unicode && byteForm && 128 ≤ c.toNat then .error {}
    else .ok (.ofClass (flags.fold (.single c)))
  | .letter cls negated => .ofClass <$> flags.negate negated (flags.letterClass cls)
  | .property query negated => .ofClass <$> flags.propertyClass query negated
  | .assertion kind => .ok (.atom (.look (flags.assertion kind)))

/-- The full stop as a pattern. Without Unicode it would take single bytes. -/
def dot (flags : Flags) : Except Malformed (Pattern Atom) :=
  if !flags.unicode then .error {}
  else if flags.dotTakesLineEnds then .ok (.ofClass .all)
  else if flags.crlf then
    .ok (.ofClass (.complement (.union (.single '\r') (.single '\n'))))
  else .ok (.ofClass (.complement (.single '\n')))

/-- The flags with the one that has the given letter turned on or off. -/
def set? (flags : Flags) (letter : Char) (on : Bool) : Option Flags :=
  match letter with
  | 'i' => some { flags with ignoreCase := on }
  | 'm' => some { flags with multiLine := on }
  | 's' => some { flags with dotTakesLineEnds := on }
  | 'U' => some { flags with swapGreed := on }
  | 'u' => some { flags with unicode := on }
  | 'R' => some { flags with crlf := on }
  | 'x' => some { flags with spaced := on }
  | _ => none

end Flags

/-- Flags as a group sets them. -/
structure FlagSetting where
  flags : Flags
  /-- The letters and the dash that were read, with the last one first. -/
  seen : List Char := []
  /-- The flags are for the group they stand in, not for one that they open. -/
  alone : Bool := false

/-- Reads letters up to a colon or a closing parenthesis. None comes twice, and those after a dash
are turned off. -/
def readFlags (setting : FlagSetting) : Reader FlagSetting
  | [] => .error {}
  | ':' :: rest => if setting.seen.head? == some '-' then .error {} else .ok (setting, rest)
  | ')' :: rest =>
    if setting.seen.head? == some '-' then .error {} else .ok ({ setting with alone := true }, rest)
  | c :: rest =>
    if setting.seen.contains c then .error {}
    else if c = '-' then readFlags { setting with seen := c :: setting.seen } rest
    else match setting.flags.set? c (!setting.seen.contains '-') with
      | some flags => readFlags { setting with flags, seen := c :: setting.seen } rest
      | none => .error {}

/-- The letters of all scripts. -/
def letterSet : CharClass := .ofTable binaryProperties "alphabetic"

/-- The numbers of all scripts. -/
def numberSet : CharClass :=
  .ranges (.union (["nd", "nl", "no"].filterMap (Property.find? generalCategories)))

/-- The character may stand in the name of a group, at its front or later. -/
def isNameChar (front : Bool) (c : Char) : Bool :=
  c == '_' || letterSet.has c.toNat ||
    (!front && (c == '.' || c == '[' || c == ']' || numberSet.has c.toNat))

/-- Reads the name of a group, up to the closing angle bracket. -/
def readName (front : Bool) : Reader (List Char)
  | [] => .error {}
  | '>' :: rest => if front then .error {} else .ok ([], rest)
  | c :: rest =>
    if isNameChar front c then
      match readName false rest with
      | .ok (name, left) => .ok (c :: name, left)
      | .error e => .error e
    else .error {}

/-- The decimal digits at the front, with the blanks and comments among them left out where a
pattern is written with those. -/
def takeDigits (spaced inComment : Bool) : List Char → List Char × List Char
  | [] => ([], [])
  | c :: rest =>
    if inComment then takeDigits spaced (c != '\n') rest
    else if spaced && isBlank c then takeDigits spaced false rest
    else if spaced && c == '#' then takeDigits spaced true rest
    else if c.isDigit then
      let (digits, left) := takeDigits spaced false rest
      (c :: digits, left)
    else ([], c :: rest)

/-- Reads a decimal number of at most thirty-two bits, with blanks around it. -/
def readCount (spaced : Bool) (cs : List Char) : Except Malformed (Nat × List Char) :=
  let (digits, left) := takeDigits spaced false (cs.dropWhile isBlank)
  let count := digits.foldl (fun n c => 10 * n + (c.toNat - 48)) 0
  if digits.isEmpty || 4294967295 < count then .error {}
  else .ok (count, left.dropWhile isBlank)

/-- Reads the bounds of a repetition, after the opening brace and up to the closing one. -/
def readBounds (spaced : Bool) (cs : List Char) :
    Except Malformed ((Nat × Option Nat) × List Char) := do
  let (least, left) ← readCount spaced (skipBlanks spaced cs)
  match left with
  | '}' :: rest => return ((least, some least), rest)
  | ',' :: rest =>
    match skipBlanks spaced rest with
    | '}' :: rest => return ((least, none), rest)
    | rest =>
      let (most, left) ← readCount spaced rest
      match left with
      | '}' :: rest => if least ≤ most then return ((least, some most), rest) else .error {}
      | _ => .error {}
  | _ => .error {}

/-- The rest without a question mark at its front, which makes a repetition reluctant. Where a
match ends makes no difference to whether there is one. -/
def dropReluctance : List Char → List Char
  | '?' :: rest => rest
  | rest => rest

namespace Parse

/-- Goes on with one more element in the open group. -/
def push (s : Parse) (pattern : Pattern Atom) (depth : Nat) (rest : List Char) : Parse :=
  { s with rest, group := s.group.push { pattern, depth } }

/-- Opens a group. -/
def openGroup (s : Parse) (flags : Flags) (rest : List Char) : Parse :=
  { s with rest, flags, group := {}, outer := (s.group, s.flags) :: s.outer }

/-- Goes on after an opening parenthesis. -/
def parenthesis (s : Parse) (rest : List Char) : Except Malformed Parse :=
  let named (rest : List Char) : Except Malformed Parse :=
    match readName true rest with
    | .ok (name, rest) =>
      if s.names.contains name then .error {}
      else .ok { s.openGroup s.flags rest with names := name :: s.names }
    | .error e => .error e
  match skipBlanks s.flags.spaced rest with
  | '?' :: 'P' :: '<' :: rest => named rest
  | '?' :: '<' :: rest => named rest
  | '?' :: rest =>
    match readFlags { flags := s.flags } rest with
    | .error e => .error e
    | .ok (setting, rest) =>
      if !setting.alone then .ok (s.openGroup setting.flags rest)
      else if setting.seen.isEmpty then .error {}
      else .ok { s with
        rest
        flags := setting.flags
        group := s.group.push { pattern := .empty, repeatable := false } }
  | rest => .ok (s.openGroup s.flags rest)

/-- Ends the open group. -/
def closeGroup (s : Parse) (rest : List Char) : Except Malformed Parse :=
  match s.outer with
  | [] => .error {}
  | (group, flags) :: outer =>
    let inner := s.group.finish
    .ok { s with
      rest
      flags
      group := group.push { pattern := inner.value, depth := 1 + inner.depth }
      outer }

/-- Repeats the last element. -/
def repeatLast (s : Parse) (least : Nat) (most : Option Nat) (rest : List Char) :
    Except Malformed Parse :=
  match s.group.elements with
  | [] => .error {}
  | last :: before =>
    if !last.repeatable then .error {}
    else .ok { s with
      rest
      group := { s.group with
        elements :=
          { pattern := .repeated last.pattern least most, depth := 1 + last.depth } :: before } }

/-- Goes on by the element of the pattern that starts with the given character. -/
def step (s : Parse) (c : Char) (rest : List Char) : Except Malformed Parse :=
  match c with
  | '(' => s.parenthesis rest
  | ')' => s.closeGroup rest
  | '|' => .ok { s with rest, group := s.group.endBranch }
  | '[' => do
    let (cls, rest) ← readBracket s.flags (2 * rest.length + 2) rest
    return s.push (.ofClass cls.value) cls.depth rest
  | '?' => s.repeatLast 0 (some 1) (dropReluctance rest)
  | '*' => s.repeatLast 0 none (dropReluctance rest)
  | '+' => s.repeatLast 1 none (dropReluctance rest)
  | '{' => do
    let ((least, most), rest) ← readBounds s.flags.spaced rest
    s.repeatLast least most (dropReluctance (skipBlanks s.flags.spaced rest))
  | '.' => do return s.push (← s.flags.dot) 0 rest
  | '^' => do return s.push (← s.flags.primitive (.assertion .lineStart)) 0 rest
  | '$' => do return s.push (← s.flags.primitive (.assertion .lineEnd)) 0 rest
  | '\\' => do
    let (escape, rest) ← Primitive.read s.flags.spaced rest
    return s.push (← s.flags.primitive escape) 0 rest
  | c => do return s.push (← s.flags.primitive (.literal c false)) 0 rest

/-- Reads to the end, by at most as many steps as the first argument says. -/
def run : Nat → Parse → Except Malformed (Nested (Pattern Atom))
  | 0, _ => .error {}
  | fuel + 1, s =>
    match skipBlanks s.flags.spaced s.rest with
    | [] => if s.outer.isEmpty then .ok s.group.finish else .error {}
    | c :: rest =>
      match s.step c rest with
      | .ok s => run fuel s
      | .error e => .error e

end Parse

/-- How deeply a pattern may nest. -/
def maxDepth : Nat := 250

/-- The pattern that a text describes. -/
def parse (text : List Char) : Except Malformed (Pattern Atom) :=
  match Parse.run (text.length + 1) { rest := text } with
  | .ok pattern => if pattern.depth ≤ maxDepth then .ok pattern.value else .error {}
  | .error e => .error e

end TrafficPlane.Regex
