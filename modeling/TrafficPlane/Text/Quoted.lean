import TrafficPlane.Unicode.BinaryProperty
import TrafficPlane.Unicode.GeneralCategory

/-!
# Quoted text

A text in double quotes, as messages show it: what cannot be seen or would run into its neighbour
is written as an escape.

## Main definitions

* `Text.quote`: the quoted form of a text
-/

namespace TrafficPlane.Text

open Unicode

/-- The characters without a visible form: controls, formats, private use, separators and those
that are not assigned. -/
def unseenSet : CodeRanges :=
  .union (["cc", "cf", "cn", "co", "zl", "zp", "zs"].filterMap (Property.find? generalCategories))

/-- The characters that extend the one in front of them. -/
def extendingSet : CodeRanges :=
  (Property.find? binaryProperties "graphemeextend").getD ⟨[]⟩

/-- Neither unseen nor extending: the character stands for itself in quoted text. -/
def isPlain (c : Char) : Bool :=
  if c.toNat < 127 then 32 ≤ c.toNat
  else !unseenSet.hasChar c && !extendingSet.hasChar c

/-- A number in base sixteen, in lower case, without leading zeros. -/
def hexText (n : Nat) : String :=
  .ofList (Nat.toDigits 16 n)

/-- One character of quoted text. -/
def quoteChar (c : Char) : String :=
  if c = '"' then "\\\""
  else if c = '\\' then "\\\\"
  else if c = '\n' then "\\n"
  else if c = '\r' then "\\r"
  else if c = '\t' then "\\t"
  else if c.toNat = 0 then "\\0"
  else if isPlain c then c.toString
  else "\\u\x7b" ++ hexText c.toNat ++ "\x7d"

/-- The text in double quotes. -/
def quote (s : String) : String :=
  "\"" ++ String.join (s.toList.map quoteChar) ++ "\""

end TrafficPlane.Text
