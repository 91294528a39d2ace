import TrafficPlane.Regex.Escape

/-!
# Classes in brackets

Reading of `[...]`: items, ranges, nested brackets, and the operations `&&`, `--` and `~~`, which
group from the left and bind alike.

## Main definitions

* `Flags`: how a part of a pattern is to be taken
* `Nested`: a part of a pattern with the depth of its nesting
* `readBracket`: reads a class, after its opening bracket
-/

namespace TrafficPlane.Regex

open Text

/-- How a part of a pattern is to be taken. -/
structure Flags where
  ignoreCase : Bool := false
  multiLine : Bool := false
  dotTakesLineEnds : Bool := false
  swapGreed : Bool := false
  unicode : Bool := true
  crlf : Bool := false
  spaced : Bool := false

/-- A part of a pattern with the depth of its nesting. -/
structure Nested (α : Type) where
  value : α
  depth : Nat := 0

namespace Flags

/-- The class as it is where case is ignored. -/
def fold (flags : Flags) (cls : CharClass) : CharClass :=
  if !flags.ignoreCase then cls else if flags.unicode then .folded cls else .foldedAscii cls

/-- The characters outside a class, where that is asked for. Without Unicode they would be single
bytes, which are no text. -/
def negate (flags : Flags) (negated : Bool) (cls : CharClass) : Except Malformed CharClass :=
  if !negated then .ok cls else if flags.unicode then .ok (.complement cls) else .error {}

/-- The class with a letter of its own. -/
def letterClass (flags : Flags) : LetterClass → CharClass
  | .digit => if flags.unicode then .digit else .asciiDigit
  | .space => if flags.unicode then .space else .asciiSpace
  | .word => if flags.unicode then .word else .asciiWord

/-- The class that a query names. -/
def propertyClass (flags : Flags) (query : ClassQuery) (negated : Bool) :
    Except Malformed CharClass :=
  match flags.unicode, query.find? with
  | true, some cls => flags.negate negated (flags.fold cls)
  | _, _ => .error {}

/-- A character as a member of a class. Without Unicode it has to be one of ASCII. -/
def classChar (flags : Flags) : Primitive → Except Malformed Char
  | .literal c _ => if flags.unicode || c.toNat < 128 then .ok c else .error {}
  | _ => .error {}

/-- An item of a class that is no range. -/
def classItem (flags : Flags) : Primitive → Except Malformed CharClass
  | .letter cls negated => flags.negate negated (flags.letterClass cls)
  | .property query negated => flags.propertyClass query negated
  | item => .single <$> flags.classChar item

end Flags

/-- The next character of a class after a dash. Comments are not passed over whole here: what comes
after their hash sign is the next character. -/
def peekPastBlanks (spaced : Bool) (cs : List Char) : Option Char :=
  if spaced then
    match cs.dropWhile isBlank with
    | [] => cs.head?
    | '#' :: rest => (rest.dropWhile isBlank).head? <|> cs.head?
    | c :: _ => some c
  else cs.head?

/-- Reads one character of a class or one escape. -/
def readClassPrimitive (spaced : Bool) : Reader Primitive
  | [] => .error {}
  | '\\' :: rest => Primitive.read spaced rest
  | c :: rest => .ok (.literal c false, rest)

/-- Reads one item or a range. A dash before a closing bracket or another dash makes no range. -/
def readClassRange (flags : Flags) (cs : List Char) :
    Except Malformed (CharClass × List Char) := do
  let (first, left) ← readClassPrimitive flags.spaced cs
  match skipBlanks flags.spaced left with
  | [] => .error {}
  | '-' :: rest =>
    let next := peekPastBlanks flags.spaced rest
    if next == some ']' || next == some '-' then
      return (← flags.classItem first, '-' :: rest)
    else
      let (last, left) ← readClassPrimitive flags.spaced (skipBlanks flags.spaced rest)
      let low ← flags.classChar first
      let high ← flags.classChar last
      if low ≤ high then return (.between low high, left) else .error {}
  | rest => return (← flags.classItem first, rest)

/-- A class of ASCII characters by name, such as `[:alpha:]`, after its opening bracket: the class,
whether it is negated, and what follows it. -/
def readAsciiClass? (cs : List Char) : Option (CharClass × Bool × List Char) :=
  match cs with
  | ':' :: rest =>
    let (negated, rest) := match rest with
      | '^' :: rest => (true, rest)
      | rest => (false, rest)
    match rest.dropWhile (· != ':') with
    | ':' :: ']' :: left =>
      (CharClass.ofAsciiName? (.ofList (rest.takeWhile (· != ':')))).map fun cls =>
        (cls, negated, left)
    | _ => none
  | _ => none

/-- The operations on classes. -/
inductive SetOperation where
  | inter
  | diff
  | symmDiff

/-- The class that an operation makes. -/
def SetOperation.apply : SetOperation → CharClass → CharClass → CharClass
  | inter, a, b => .inter a b
  | diff, a, b => .diff a b
  | symmDiff, a, b => .symmDiff a b

/-- The items of a class, given with the last one first. -/
def unionOfItems : List (Nested CharClass) → Nested CharClass
  | [] => ⟨.empty, 0⟩
  | [item] => item
  | items =>
    ⟨items.foldl (fun cls item => .union item.value cls) .empty,
      1 + (items.map (·.depth)).foldl max 0⟩

/-- Applies the operation that waits for its right side, if there is one. -/
def closeOperation (flags : Flags) (left : Option (SetOperation × Nested CharClass))
    (right : Nested CharClass) : Nested CharClass :=
  match left with
  | none => right
  | some (op, left) =>
    ⟨op.apply (flags.fold left.value) (flags.fold right.value), 1 + max left.depth right.depth⟩

/-- Reads dashes at the front of a class, which are literal. -/
def leadingDashes (spaced : Bool) (fuel : Nat) (items : List (Nested CharClass))
    (cs : List Char) : List (Nested CharClass) × List Char :=
  match fuel, cs with
  | fuel + 1, '-' :: rest =>
    leadingDashes spaced fuel (⟨.single '-', 0⟩ :: items) (skipBlanks spaced rest)
  | _, _ => (items, cs)

/-- Reads the front of a class: whether it is negated, and the dashes or the closing bracket that
are literal there. -/
def readBracketFront (spaced : Bool) (cs : List Char) :
    Bool × List (Nested CharClass) × List Char :=
  let cs := skipBlanks spaced cs
  let (negated, cs) := match cs with
    | '^' :: rest => (true, skipBlanks spaced rest)
    | _ => (false, cs)
  match leadingDashes spaced cs.length [] cs with
  | ([], ']' :: rest) => (negated, [⟨.single ']', 0⟩], skipBlanks spaced rest)
  | (items, rest) => (negated, items, rest)

mutual

/-- Reads the rest of a class up to its closing bracket. `left` is the operation under way with its
left side, and `items` holds what was read after it, with the last item first. -/
def readItems (flags : Flags) :
    Nat → Option (SetOperation × Nested CharClass) → List (Nested CharClass) →
      Reader (Nested CharClass)
  | 0, _, _, _ => .error {}
  | fuel + 1, left, items, cs =>
    let finished := closeOperation flags left (unionOfItems items)
    match skipBlanks flags.spaced cs with
    | [] => .error {}
    | ']' :: rest => .ok (finished, rest)
    | '&' :: '&' :: rest => readItems flags fuel (some (.inter, finished)) [] rest
    | '-' :: '-' :: rest => readItems flags fuel (some (.diff, finished)) [] rest
    | '~' :: '~' :: rest => readItems flags fuel (some (.symmDiff, finished)) [] rest
    | '[' :: rest =>
      match readAsciiClass? rest with
      | some (cls, negated, rest) => do
        let cls ← flags.negate negated (flags.fold cls)
        readItems flags fuel left (⟨cls, 0⟩ :: items) rest
      | none => do
        let (item, rest) ← readBracket flags fuel rest
        readItems flags fuel left (item :: items) rest
    | rest => do
      let (cls, rest) ← readClassRange flags rest
      readItems flags fuel left (⟨cls, 0⟩ :: items) rest

/-- Reads a class, after its opening bracket. -/
def readBracket (flags : Flags) : Nat → Reader (Nested CharClass)
  | 0, _ => .error {}
  | fuel + 1, cs => do
    let (negated, items, rest) := readBracketFront flags.spaced cs
    let (set, rest) ← readItems flags fuel none items rest
    return (⟨← flags.negate negated (flags.fold set.value), 1 + set.depth⟩, rest)

end

end TrafficPlane.Regex
