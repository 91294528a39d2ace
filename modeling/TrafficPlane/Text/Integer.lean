/-!
# Decimal integers

Reading a whole text as a decimal integer within bounds: a sign, where the bounds allow one, and at
least one digit. The first character that breaks a rule decides what is wrong.

## Main definitions

* `Text.IntegerFault`: why a text is no integer within the bounds
* `Text.readInteger`: the integer that a text denotes
-/

namespace TrafficPlane.Text

/-- Why a text is no integer within the bounds. -/
inductive IntegerFault where
  | empty
  | invalidDigit
  | tooLarge
  | tooSmall
deriving DecidableEq, Repr

/-- What is wrong, in words. -/
def IntegerFault.message : IntegerFault → String
  | .empty => "cannot parse integer from empty string"
  | .invalidDigit => "invalid digit found in string"
  | .tooLarge => "number too large to fit in target type"
  | .tooSmall => "number too small to fit in target type"

/-- One more digit after the value read so far, which grows away from zero on the side of the
sign. -/
def appendDigit (low high : Int) (negative : Bool) (value : Int) (c : Char) :
    Except IntegerFault Int :=
  if c.isDigit then
    let digit : Int := (c.toNat - '0'.toNat : Nat)
    let value := if negative then 10 * value - digit else 10 * value + digit
    if value < low then .error .tooSmall
    else if high < value then .error .tooLarge
    else .ok value
  else .error .invalidDigit

/-- The value of a run of digits. -/
def readDigits (low high : Int) (negative : Bool) : List Char → Except IntegerFault Int
  | [] => .error .invalidDigit
  | digits => digits.foldlM (appendDigit low high negative) 0

/-- The integer between `low` and `high` that the text denotes. A minus sign is read only where
the bounds admit a negative number. -/
def readInteger (low high : Int) (text : String) : Except IntegerFault Int :=
  match text.toList with
  | [] => .error .empty
  | '+' :: digits => readDigits low high false digits
  | '-' :: digits =>
    if low < 0 then readDigits low high true digits else .error .invalidDigit
  | digits => readDigits low high false digits

end TrafficPlane.Text
