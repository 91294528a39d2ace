/-!
# Sets of code points

A set of code points is a list of closed ranges. Tables of a standard are written as text: ranges
in base sixteen, `41-5A`, or single code points, `5F`, with blanks or line breaks between them.

## Main definitions

* `CodeRanges.has`: membership of a code point
* `CodeRanges.ofText`: the set that a table's text describes
* `Property`: a set of code points with the names it goes by
-/

namespace TrafficPlane.Unicode

/-- A set of code points, given by closed ranges. -/
structure CodeRanges where
  ranges : List (Nat × Nat)

namespace CodeRanges

/-- The code point lies in one of the ranges. -/
def has (set : CodeRanges) (code : Nat) : Bool :=
  set.ranges.any fun r => r.1 ≤ code && code ≤ r.2

/-- The character's code point lies in one of the ranges. -/
def hasChar (set : CodeRanges) (c : Char) : Bool :=
  set.has c.toNat

/-- The code points that lie in one of several sets. -/
def union (sets : List CodeRanges) : CodeRanges :=
  ⟨sets.flatMap ranges⟩

/-- The value of a digit in base sixteen, in upper case. -/
def digitValue (c : Char) : Nat :=
  if c.isDigit then c.toNat - '0'.toNat else c.toNat - 'A'.toNat + 10

/-- Reading a table: the groups finished so far, the open group, and the number under way, all
with the newest first. -/
structure Reading where
  groups : List (List Nat) := []
  group : List Nat := []
  number : Option Nat := none

/-- The open group is finished, if there is one. -/
def Reading.close (r : Reading) : Reading :=
  match r.number with
  | none => r
  | some n => { groups := (n :: r.group).reverse :: r.groups }

/-- A dash ends a number, a blank or a line break ends a group, and every other character is a
digit. -/
def Reading.step (r : Reading) (c : Char) : Reading :=
  if c = '-' then { r with group := r.number.toList ++ r.group, number := none }
  else if c = ' ' || c = '\n' then r.close
  else { r with number := some (16 * r.number.getD 0 + digitValue c) }

/-- The groups of numbers in a text: numbers in base sixteen, with dashes inside a group and
blanks or line breaks between groups. -/
def groupsOfText (text : String) : List (List Nat) :=
  (text.foldl Reading.step {}).close.groups.reverse

/-- The set that a text of ranges and single code points describes. -/
def ofText (text : String) : CodeRanges :=
  ⟨(groupsOfText text).filterMap fun
    | [a] => some (a, a)
    | [a, b] => some (a, b)
    | _ => none⟩

end CodeRanges

/-- A set of code points with the names it goes by, in folded form: lower case, without blanks,
dashes and low lines. -/
structure Property where
  names : List String
  ranges : CodeRanges

/-- The first property of a table that goes by the given name. -/
def Property.find? (table : List Property) (name : String) : Option CodeRanges :=
  (table.find? fun p => p.names.contains name).map ranges

end TrafficPlane.Unicode
