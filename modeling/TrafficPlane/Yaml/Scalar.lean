import TrafficPlane.Document.Basic
import TrafficPlane.Text.Digit
import TrafficPlane.Text.Slice
import TrafficPlane.Yaml.Cursor

/-!
# Values of scalars

A plain scalar is null, a truth value, an integer or a number if it is written like one, and a text
otherwise. A tag may ask for one of these.

## Main definitions

* `plainValue`: the value of a plain scalar without a tag
* `scalarValue`: the value of a scalar
-/

namespace TrafficPlane.Yaml

open Text

/-- The text without a part that it may start with. -/
def withoutFront? (front : String) (text : List Char) : Option (List Char) :=
  if front.toList.isPrefixOf text then some (text.drop front.length) else none

/-- The text without a plus sign in front. -/
def withoutPlus : List Char → List Char
  | '+' :: rest => rest
  | text => text

/-- The text without a sign in front. -/
def withoutSign : List Char → List Char
  | '+' :: rest | '-' :: rest => rest
  | text => text

/-! ### Integers -/

/-- Digits after a leading zero, with or without a sign, are no number. -/
def isPaddedNumber (text : List Char) : Bool :=
  match withoutSign text with
  | '0' :: c :: rest => (c :: rest).all Char.isDigit
  | _ => false

/-- The number that digits in a base stand for. -/
def digitsValue? (base : Nat) (digits : List Char) : Option Nat :=
  if digits.isEmpty then none
  else digits.foldlM (fun n c => match hexDigit? c with
    | some d => if d < base then some (base * n + d) else none
    | none => none) 0

/-- The fronts that name a base. -/
def bases : List (String × Nat) := [("0x", 16), ("0o", 8), ("0b", 2)]

/-- The number that is written without a sign in one of the bases. -/
def magnitude? (text : List Char) : Option Nat :=
  match bases.findSome? fun (front, base) =>
      (withoutFront? front text).bind (digitsValue? base) with
  | some n => some n
  | none => digitsValue? 10 text

/-- The integer that a text stands for, of any size. -/
def integer? (text : List Char) : Option Int :=
  if isPaddedNumber text then none
  else match text with
    | '-' :: rest => (magnitude? rest).map fun n => -n
    | text => (magnitude? (withoutPlus text)).map fun n => n

/-! ### Other numbers -/

/-- A decimal: its digits as a number, and the power of ten that it is multiplied by. -/
structure Decimal where
  digits : Nat
  exponent : Int
deriving DecidableEq, Repr

/-- The exponent of a decimal, after the letter in front of it. -/
def exponent? (text : List Char) : Option Int :=
  let digits := digitsValue? 10 (withoutSign text)
  match text with
  | '-' :: _ => digits.map fun n => -n
  | _ => digits.map fun n => n

/-- The decimal that a text without a sign stands for. There is a digit before the point or after
it. -/
def decimal? (text : List Char) : Option Decimal :=
  let whole := text.takeWhile Char.isDigit
  let text := text.dropWhile Char.isDigit
  let (fraction, text) := match text with
    | '.' :: rest => (rest.takeWhile Char.isDigit, rest.dropWhile Char.isDigit)
    | _ => ([], text)
  match digitsValue? 10 (whole ++ fraction) with
  | none => none
  | some digits =>
    let places : Int := fraction.length
    match text with
    | [] => some { digits, exponent := -places }
    | c :: rest =>
      if c = 'e' ∨ c = 'E' then
        (exponent? rest).map fun exponent => { digits, exponent := exponent - places }
      else none

/-- The number of a decimal, if it is not too large to be one. -/
def Decimal.toFloat? (decimal : Decimal) : Option Float :=
  let size : Int := (Nat.toDigits 10 decimal.digits).length + decimal.exponent
  if decimal.digits = 0 ∨ size < -400 then some 0
  else if 400 < size then none
  else
    let value := Float.ofScientific decimal.digits (decimal.exponent < 0) decimal.exponent.natAbs
    if value.isFinite then some value else none

/-- A text is one of the three usual spellings of a word after a full stop. -/
def isDotted (text : List Char) (spellings : List String) : Bool :=
  spellings.any fun spelling => text == '.' :: spelling.toList

/-- The number that a text stands for. -/
def number? (text : List Char) : Option Float :=
  let unsigned := withoutSign text
  if isDotted unsigned ["inf", "Inf", "INF"] then
    some (if text.head? == some '-' then -1 / 0 else 1 / 0)
  else if isDotted text ["nan", "NaN", "NAN"] then some (0 / 0)
  else
    let value := (decimal? unsigned).bind Decimal.toFloat?
    if text.head? == some '-' then value.map (-·) else value

/-! ### Values -/

/-- The spellings of null. -/
def isNull (text : String) : Bool := ["null", "Null", "NULL", "~"].contains text

/-- The truth value that a text spells. -/
def truth? (text : String) : Option Bool :=
  if ["true", "True", "TRUE"].contains text then some true
  else if ["false", "False", "FALSE"].contains text then some false
  else none

/-- The document of an integer. Integers that need up to a hundred and twenty-eight bits are read,
but documents hold sixty-four. -/
def integerValue (n : Int) : Result Doc :=
  if -9223372036854775808 ≤ n ∧ n ≤ 18446744073709551615 then .ok (.int n) else malformed

/-- The integer of at most a hundred and twenty-eight bits that a text stands for. -/
def boundedInteger? (text : String) : Option Int :=
  (integer? text.toList).filter fun n =>
    -170141183460469231731687303715884105728 ≤ n ∧ n ≤ 340282366920938463463374607431768211455

/-- The value of a plain scalar without a tag. -/
def plainValue (text : String) : Result Doc :=
  if text = "" ∨ isNull text then .ok .null
  else match truth? text with
    | some value => .ok (.bool value)
    | none =>
      match boundedInteger? text with
      | some n => integerValue n
      | none =>
        if isPaddedNumber text.toList then .ok (.text text)
        else match number? text.toList with
          | some value => .ok (.real value)
          | none => .ok (.text text)

/-- What the tags of the core types start with. -/
def coreTag (name : String) : String := "tag:yaml.org,2002:" ++ name

/-- The tag that a document keeps: one that starts with an exclamation mark. -/
def ownTag? (tag : Option String) : Result (Option String) :=
  match tag.map String.toList with
  | some ('!' :: name) => if name.isEmpty then malformed else .ok (some (.ofList name))
  | _ => .ok none

/-- The document with the tag that it keeps. -/
def withTag (tag : Option String) (content : Doc) : Result Doc := do
  match ← ownTag? tag with
  | some name => return .tagged name content
  | none => return content

/-- The value if there is one. -/
def required {α : Type} : Option α → Result α
  | some value => .ok value
  | none => malformed

/-- The value of a scalar. Of the core types four can be asked for, and what has another tag of
theirs is a text. -/
def scalarValue (tag : Option String) (text : String) (plain : Bool) : Result Doc := do
  let value := if plain then plainValue text else .ok (.text text)
  match tag with
  | none => value
  | some tag =>
    if (← ownTag? (some tag)).isSome then withTag (some tag) (← value)
    else if tag = coreTag "bool" then return .bool (← required (truth? text))
    else if tag = coreTag "int" then integerValue (← required (boundedInteger? text))
    else if tag = coreTag "float" then return .real (← required (number? text.toList))
    else if tag = coreTag "null" then if isNull text then return .null else malformed
    else return .text text

end TrafficPlane.Yaml
