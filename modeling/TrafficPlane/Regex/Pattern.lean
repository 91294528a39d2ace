import TrafficPlane.Regex.CharClass

/-!
# Patterns

A pattern is a regular expression over atoms. The atoms of a written pattern are classes of
characters and assertions about a place in the text. For one text every atom becomes the set of the
places where it holds, and a pattern becomes a function that takes the places where a match may
start to those where it may end.

## Main definitions

* `Pattern`: regular expressions over atoms
* `Atom`: a class of characters or an assertion
* `PlaceSet`: a set of places in a text
* `Pattern.ends`: where matches end that start in a set of places
* `Pattern.occursIn`: the pattern matches some part of the text
-/

namespace TrafficPlane.Regex

/-- Regular expressions over atoms. -/
inductive Pattern (α : Type) where
  | empty
  | atom (a : α)
  | cat (p q : Pattern α)
  | alt (p q : Pattern α)
  /-- At least `least` times, and at most `most` times where that is given. -/
  | repeated (p : Pattern α) (least : Nat) (most : Option Nat)

/-- The pattern with each atom replaced. -/
def Pattern.map {α β : Type} (f : α → β) : Pattern α → Pattern β
  | empty => empty
  | atom a => atom (f a)
  | cat p q => cat (p.map f) (q.map f)
  | alt p q => alt (p.map f) (q.map f)
  | repeated p least most => repeated (p.map f) least most

/-- Assertions about the two sides of a place. `wide` takes the characters of words from all
scripts, and `crlf` makes a carriage return end a line, alone or before a line feed. -/
inductive Assertion where
  | textStart
  | textEnd
  | lineStart (crlf : Bool)
  | lineEnd (crlf : Bool)
  | wordEdge (wide : Bool)
  | notWordEdge (wide : Bool)
  | wordStart (wide : Bool)
  | wordEnd (wide : Bool)
  | wordStartHalf (wide : Bool)
  | wordEndHalf (wide : Bool)

/-- The atoms of a written pattern. -/
inductive Atom where
  | char (cls : CharClass)
  | look (assertion : Assertion)

/-- The character belongs to a word. -/
def isWordChar (wide : Bool) : Option Char → Bool
  | none => false
  | some c => (if wide then CharClass.word else CharClass.asciiWord).has c.toNat

/-- The assertion holds between two neighbours, of which the ends of the text have only one. -/
def Assertion.holds (before after : Option Char) : Assertion → Bool
  | textStart => before.isNone
  | textEnd => after.isNone
  | lineStart false => before.isNone || before == some '\n'
  | lineStart true =>
    before.isNone || before == some '\n' || (before == some '\r' && after != some '\n')
  | lineEnd false => after.isNone || after == some '\n'
  | lineEnd true =>
    after.isNone || after == some '\r' || (after == some '\n' && before != some '\r')
  | wordEdge wide => isWordChar wide before != isWordChar wide after
  | notWordEdge wide => isWordChar wide before == isWordChar wide after
  | wordStart wide => !isWordChar wide before && isWordChar wide after
  | wordEnd wide => isWordChar wide before && !isWordChar wide after
  | wordStartHalf wide => !isWordChar wide before
  | wordEndHalf wide => !isWordChar wide after

/-- A set of places in a text, as the bits of a number: bit `i` stands for the place after `i`
characters. -/
abbrev PlaceSet := Nat

namespace PlaceSet

/-- The set of the places from `first` on for which a list holds true. -/
def ofBools : List Bool → PlaceSet
  | [] => 0
  | b :: rest => 2 * ofBools rest + (if b then 1 else 0)

/-- The places of one set that are not in the other. -/
def minus (a b : PlaceSet) : PlaceSet := (a ||| b) ^^^ b

end PlaceSet

/-- What an atom does in one text. -/
inductive Step where
  /-- Goes over one character from each of these places. -/
  | advance (places : PlaceSet)
  /-- Stays, and only at these places. -/
  | stay (places : PlaceSet)

/-- The places that the step leads to. -/
def Step.apply : Step → PlaceSet → PlaceSet
  | advance places, from_ => (from_ &&& places) <<< 1
  | stay places, from_ => from_ &&& places

/-- The neighbours of each place of a text, of which `before` is on the left of the first. -/
def neighbours (before : Option Char) : List Char → List (Option Char × Option Char)
  | [] => [(before, none)]
  | c :: rest => (before, some c) :: neighbours (some c) rest

/-- The step that the atom makes in a text. -/
def Atom.resolve (text : List Char) : Atom → Step
  | char cls => .advance (.ofBools (text.map fun c => cls.has c.toNat))
  | look assertion =>
    .stay (.ofBools ((neighbours none text).map fun p => assertion.holds p.1 p.2))

namespace Pattern

/-- Applies a function a number of times, or fewer where nothing is left. -/
def iterate (f : PlaceSet → PlaceSet) : Nat → PlaceSet → PlaceSet
  | 0, s => s
  | n + 1, s => if s = 0 then 0 else iterate f n (f s)

/-- The places that are reached from `seen` by applying a function at most a number of times, where
`edge` holds those reached last. -/
def spread (f : PlaceSet → PlaceSet) : Nat → PlaceSet → PlaceSet → PlaceSet
  | 0, seen, _ => seen
  | n + 1, seen, edge =>
    let fresh := PlaceSet.minus (f edge) seen
    if fresh = 0 then seen else spread f n (seen ||| fresh) fresh

/-- The places where matches end that start in `from_`, in a text of `size` characters. More rounds
of a repetition than there are places reach nothing new. -/
def ends (size : Nat) : Pattern Step → PlaceSet → PlaceSet
  | empty, from_ => from_
  | atom step, from_ => step.apply from_
  | cat p q, from_ => q.ends size (p.ends size from_)
  | alt p q, from_ => p.ends size from_ ||| q.ends size from_
  | repeated p least most, from_ =>
    let after := iterate (p.ends size) (min least (size + 1)) from_
    let rounds := match most with
      | some most => min (most - least) (size + 1)
      | none => size + 1
    spread (p.ends size) rounds after after

/-- The pattern matches some part of the text, which may be empty. -/
def occursIn (pattern : Pattern Atom) (text : List Char) : Bool :=
  (pattern.map (Atom.resolve text)).ends text.length (Nat.pow 2 (text.length + 1) - 1) != 0

end Pattern

end TrafficPlane.Regex
