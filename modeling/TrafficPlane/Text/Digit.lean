/-!
# Digits

## Main definitions

* `Text.hexDigit?`: the value of a digit in base sixteen
-/

namespace TrafficPlane.Text

/-- The value of a digit in base sixteen, with letters in either case. -/
def hexDigit? (c : Char) : Option Nat :=
  if c.isDigit then some (c.toNat - 48)
  else if 'a' ≤ c ∧ c ≤ 'f' then some (c.toNat - 87)
  else if 'A' ≤ c ∧ c ≤ 'F' then some (c.toNat - 55)
  else none

end TrafficPlane.Text
