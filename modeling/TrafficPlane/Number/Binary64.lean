/-!
# Counts as binary floating-point numbers

Gauges hold their values with fifty-three binary digits. A count is rounded to the nearest such
number and written with the fewest decimal digits that lead back to it, followed by zeros.

## Main definitions

* `Binary64.round`: the nearest number with fifty-three binary digits
* `Binary64.text`: a count as a gauge shows it
-/

namespace TrafficPlane.Binary64

/-- A whole number as a significand of at most fifty-three binary digits and a power of two. -/
structure Rounded where
  significand : Nat
  exponent : Nat
deriving DecidableEq, Repr

/-- The value of a rounded number. -/
def Rounded.value (r : Rounded) : Nat :=
  r.significand * Nat.pow 2 r.exponent

/-- The nearest number with fifty-three binary digits, of two the one with an even significand. -/
def round (n : Nat) : Rounded :=
  let exponent := n.log2 - 52
  let unit := Nat.pow 2 exponent
  let low := n / unit
  let rest := n % unit
  if unit < 2 * rest ∨ (2 * rest = unit ∧ low % 2 = 1) then ⟨low + 1, exponent⟩
  else ⟨low, exponent⟩

/-- The decimal leads back to the rounded number. -/
def Rounded.readsAs (r : Rounded) (decimal : Nat) : Bool :=
  (round decimal).value == r.value

/-- The multiple of a power of ten that is nearest to the number, among those at most one step away
that lead back to it. -/
def Rounded.onGrid? (r : Rounded) (step : Nat) : Option Nat :=
  let below := r.value / step * step
  let above := below + step
  match r.readsAs below, r.readsAs above with
  | true, true => some (if r.value - below ≤ above - r.value then below else above)
  | true, false => some below
  | false, true => some above
  | false, false => none

/-- The decimal with the fewest digits that leads back to the number, on the grids of the powers of
ten from the given one down. -/
def Rounded.shortest (r : Rounded) : Nat → Nat
  | 0 => r.value
  | places + 1 => (r.onGrid? (Nat.pow 10 (places + 1))).getD (r.shortest places)

/-- A count as a gauge shows it. -/
def text (n : Nat) : String :=
  let r := round n
  toString (if r.exponent = 0 then r.value else r.shortest (Nat.toDigits 10 r.value).length)

end TrafficPlane.Binary64
