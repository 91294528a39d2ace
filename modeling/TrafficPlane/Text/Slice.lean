import TrafficPlane.Text.Case

/-!
# Fronts of texts

The front of a text is cut by its length in UTF-8. A cut that would fall within a character gives
nothing.

## Main definitions

* `Text.takeBytes?`: the front with a given number of bytes
* `Text.startsIgnoringCase`: a text starts with another one up to the case of ASCII letters
-/

namespace TrafficPlane.Text

/-- The characters that make up a given number of bytes in UTF-8, if some do. -/
def takeBytes? : Nat → List Char → Option (List Char)
  | 0, _ => some []
  | _ + 1, [] => none
  | n + 1, c :: rest =>
    if c.utf8Size ≤ n + 1 then (takeBytes? (n + 1 - c.utf8Size) rest).map (c :: ·) else none

/-- The front of the text that is as long as `start` in UTF-8 differs from it in nothing but the
case of ASCII letters. -/
def startsIgnoringCase (text start : String) : Bool :=
  match takeBytes? start.utf8ByteSize text.toList with
  | some front => equalIgnoringCase (.ofList front) start
  | none => false

end TrafficPlane.Text
