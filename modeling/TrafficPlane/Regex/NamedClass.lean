import TrafficPlane.Regex.CharClass
import TrafficPlane.Unicode.Age
import TrafficPlane.Unicode.Script
import TrafficPlane.Unicode.ScriptExtension
import TrafficPlane.Unicode.Segmentation

/-!
# Named classes

The classes that a pattern names by a property of Unicode: a two-valued property, a general
category or a script by its bare name, and the values of some properties as a pair of names. Case,
blanks, dashes, low lines and a leading `is` do not matter in names.

## Main definitions

* `ClassQuery`: what a pattern asks for
* `ClassQuery.find?`: the class that it names, if there is one
-/

namespace TrafficPlane.Regex

open Unicode

/-- A class that a pattern asks for by name. -/
inductive ClassQuery where
  | named (name : String)
  | valued (property value : String)

namespace ClassQuery

/-- The name as the tables hold it: ASCII letters in lower case, without blanks, dashes and low
lines, and without a leading `is` unless that leaves just a `c`. -/
def foldName (name : String) : String :=
  let fold (cs : List Char) : List Char :=
    (cs.filter fun c => c != ' ' && c != '_' && c != '-' && c.toNat < 128).map Char.toLower
  match name.toList with
  | a :: b :: rest =>
    if a.toLower = 'i' && b.toLower = 's' then
      if fold rest = ['c'] then "isc" else .ofList (fold rest)
    else .ofList (fold (a :: b :: rest))
  | cs => .ofList (fold cs)

/-- The characters of a general category or of a group of them. -/
def category? (name : String) : Option CharClass :=
  if name = "any" then some .all
  else if name = "ascii" then some (.between (Char.ofNat 0) (Char.ofNat 127))
  else if name = "assigned" then some (.complement (.ofTable generalCategories "cn"))
  else match Property.find? generalCategories name with
    | some set => some (.ranges set)
    | none => (categoryGroups.find? (·.1.contains name)).map fun group =>
        .ranges (.union (group.2.filterMap (Property.find? generalCategories)))

/-- The characters that a version of the standard had assigned. -/
def age? (name : String) : Option CharClass :=
  if ages.any (·.names.contains name) then
    let older := ages.takeWhile fun p => !p.names.contains name
    let exact := ages.filter fun p => p.names.contains name
    some (.ranges (.union ((older ++ exact).map (·.ranges))))
  else none

/-- The class in a table. -/
def fromTable? (table : List Property) (name : String) : Option CharClass :=
  (Property.find? table name).map .ranges

/-- The class of a bare name. A few names that properties share with general categories stand for
the category. -/
def bare? (name : String) : Option CharClass :=
  let property :=
    if ["cf", "sc", "lc"].contains name then none else fromTable? binaryProperties name
  property <|> category? name <|> fromTable? scripts name

/-- The class that is asked for, if there is one. -/
def find? : ClassQuery → Option CharClass
  | named name => bare? (foldName name)
  | valued property value =>
    let value := foldName value
    match foldName property with
    | "gc" | "generalcategory" => category? value
    | "sc" | "script" => fromTable? scripts value
    | "scx" | "scriptextensions" => fromTable? scriptExtensions value
    | "age" => age? value
    | "gcb" | "graphemeclusterbreak" => fromTable? graphemeBreaks value
    | "wb" | "wordbreak" => fromTable? wordBreaks value
    | "sb" | "sentencebreak" => fromTable? sentenceBreaks value
    | _ => none

end ClassQuery

end TrafficPlane.Regex
