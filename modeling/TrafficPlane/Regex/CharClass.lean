import TrafficPlane.Unicode.BinaryProperty
import TrafficPlane.Unicode.Folding
import TrafficPlane.Unicode.GeneralCategory

/-!
# Character classes

A class of characters is kept as the expression that describes it, and a character is tested by
evaluating the expression.

## Main definitions

* `CharClass`: a class, built from ranges by set operations and by closing under case folding
* `CharClass.has`: the character belongs to the class
* `CharClass.digit`, `CharClass.space`, `CharClass.word`: the classes that have letters of their own
-/

namespace TrafficPlane.Regex

open Unicode

/-- A class of characters. -/
inductive CharClass where
  | ranges (set : CodeRanges)
  | union (a b : CharClass)
  | inter (a b : CharClass)
  | diff (a b : CharClass)
  | symmDiff (a b : CharClass)
  | complement (a : CharClass)
  /-- The characters with the same simple case folding as a member. -/
  | folded (a : CharClass)
  /-- The characters that differ from a member at most in the case of an ASCII letter. -/
  | foldedAscii (a : CharClass)

namespace CharClass

/-- The code points with the same simple case folding. -/
def orbit (code : Nat) : List Nat :=
  (foldingGroups.find? (·.contains code)).getD [code]

/-- The code points that differ at most in the case of an ASCII letter. -/
def orbitAscii (code : Nat) : List Nat :=
  if 65 ≤ code && code ≤ 90 then [code, code + 32]
  else if 97 ≤ code && code ≤ 122 then [code, code - 32]
  else [code]

/-- The code point belongs to the class. -/
def has : CharClass → Nat → Bool
  | .ranges set, n => set.has n
  | .union a b, n => a.has n || b.has n
  | .inter a b, n => a.has n && b.has n
  | .diff a b, n => a.has n && !b.has n
  | .symmDiff a b, n => a.has n != b.has n
  | .complement a, n => !a.has n
  | .folded a, n => (orbit n).any a.has
  | .foldedAscii a, n => (orbitAscii n).any a.has

/-- The class without members. -/
def empty : CharClass := .ranges ⟨[]⟩

/-- The class of all characters. -/
def all : CharClass := .ranges ⟨[(0, 0x10FFFF)]⟩

/-- The characters between two others, both included. -/
def between (first last : Char) : CharClass := .ranges ⟨[(first.toNat, last.toNat)]⟩

/-- The class of one character. -/
def single (c : Char) : CharClass := between c c

/-- The characters of a general category or of a two-valued property. -/
def ofTable (table : List Property) (name : String) : CharClass :=
  .ranges ((Property.find? table name).getD ⟨[]⟩)

/-- The decimal digits of all scripts. -/
def digit : CharClass := ofTable generalCategories "nd"

/-- The white space of all scripts. -/
def space : CharClass := ofTable binaryProperties "whitespace"

/-- The characters of words in all scripts: letters, marks, digits, connectors and joiners. -/
def word : CharClass :=
  .union (ofTable binaryProperties "alphabetic") <|
  .union (.ranges (.union
    (["mn", "mc", "me", "nd", "pc"].filterMap (Property.find? generalCategories)))) <|
  ofTable binaryProperties "joincontrol"

/-- The decimal digits of ASCII. -/
def asciiDigit : CharClass := between '0' '9'

/-- The white space of ASCII. -/
def asciiSpace : CharClass := .ranges ⟨[(9, 13), (32, 32)]⟩

/-- The characters of words in ASCII. -/
def asciiWord : CharClass := .ranges ⟨[(48, 57), (65, 90), (95, 95), (97, 122)]⟩

/-- The classes of ASCII characters that go by a name. -/
def ofAsciiName? : String → Option CharClass
  | "alnum" => some (.ranges ⟨[(48, 57), (65, 90), (97, 122)]⟩)
  | "alpha" => some (.ranges ⟨[(65, 90), (97, 122)]⟩)
  | "ascii" => some (.ranges ⟨[(0, 127)]⟩)
  | "blank" => some (.ranges ⟨[(9, 9), (32, 32)]⟩)
  | "cntrl" => some (.ranges ⟨[(0, 31), (127, 127)]⟩)
  | "digit" => some asciiDigit
  | "graph" => some (.ranges ⟨[(33, 126)]⟩)
  | "lower" => some (.ranges ⟨[(97, 122)]⟩)
  | "print" => some (.ranges ⟨[(32, 126)]⟩)
  | "punct" => some (.ranges ⟨[(33, 47), (58, 64), (91, 96), (123, 126)]⟩)
  | "space" => some asciiSpace
  | "upper" => some (.ranges ⟨[(65, 90)]⟩)
  | "word" => some asciiWord
  | "xdigit" => some (.ranges ⟨[(48, 57), (65, 70), (97, 102)]⟩)
  | _ => none

end CharClass

end TrafficPlane.Regex
