/-!
# Blank characters

A character is blank when it has the property White_Space of Unicode, which also holds of line ends
and of the wide spaces of typography.

## Main definitions

* `Text.isBlank`: the character is blank
* `Text.trim`: a text without the blanks at its two ends
-/

namespace TrafficPlane.Text

/-- The characters with the property White_Space. -/
def isBlank (c : Char) : Bool :=
  let n := c.toNat
  (9 ≤ n && n ≤ 13) || n == 0x20 || n == 0x85 || n == 0xA0 || n == 0x1680 ||
    (0x2000 ≤ n && n ≤ 0x200A) || n == 0x2028 || n == 0x2029 || n == 0x202F || n == 0x205F ||
    n == 0x3000

/-- The characters without the blanks at the front and at the end. -/
def trimList (cs : List Char) : List Char :=
  ((cs.dropWhile isBlank).reverse.dropWhile isBlank).reverse

/-- The text without the blanks at its two ends. -/
def trim (s : String) : String :=
  .ofList (trimList s.toList)

end TrafficPlane.Text
