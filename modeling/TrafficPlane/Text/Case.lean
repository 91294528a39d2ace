import TrafficPlane.Unicode.BinaryProperty
import TrafficPlane.Unicode.CaseMapping

/-!
# Letter case

Whole texts in lower and in upper case, by the full case mappings of Unicode, and the narrower
comparison that takes only the letters of ASCII as equal in both cases.

## Main definitions

* `Text.toLower`, `Text.toUpper`: a text in one case
* `Text.asciiLower`: the capital letters of ASCII in lower case
* `Text.equalIgnoringCase`: equality up to the case of ASCII letters
-/

namespace TrafficPlane.Text

open Unicode

/-- Looks up what becomes of a character; one that the table leaves out stays as it is. -/
def mapCase (groups : List (List Nat)) (c : Char) : List Char :=
  match groups.find? (·.head? == some c.toNat) with
  | some group => group.tail.map Char.ofNat
  | none => [c]

/-- The characters that have a case. -/
def casedSet : CodeRanges := (Property.find? binaryProperties "cased").getD ⟨[]⟩

/-- The characters that case rules look through, such as marks and apostrophes. -/
def ignorableSet : CodeRanges := (Property.find? binaryProperties "caseignorable").getD ⟨[]⟩

/-- After the characters that case rules look through comes one that has a case. -/
def meetsCased (cs : List Char) : Bool :=
  ((cs.dropWhile ignorableSet.hasChar).head?.map casedSet.hasChar).getD false

/-- The characters in lower case, `before` holding those in front with the nearest first. A capital
sigma at the end of a word takes its final form. -/
def lowerList (before : List Char) : List Char → List Char
  | [] => []
  | c :: rest =>
    let lowered :=
      if c = 'Σ' then
        if meetsCased before && !meetsCased rest then ['ς'] else ['σ']
      else if c.toNat < 128 then [c.toLower]
      else mapCase lowerGroups c
    lowered ++ lowerList (c :: before) rest

/-- The text in lower case. -/
def toLower (s : String) : String :=
  .ofList (lowerList [] s.toList)

/-- The text in upper case. -/
def toUpper (s : String) : String :=
  .ofList (s.toList.flatMap fun c =>
    if c.toNat < 128 then [c.toUpper] else mapCase upperGroups c)

/-- The characters with the capital letters of ASCII in lower case and all others as they are. -/
def asciiLower (s : String) : List Char :=
  s.toList.map Char.toLower

/-- The texts differ in nothing but the case of ASCII letters. -/
def equalIgnoringCase (s t : String) : Bool :=
  asciiLower s == asciiLower t

end TrafficPlane.Text
