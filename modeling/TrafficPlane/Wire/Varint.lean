/-!
# Variable-length integers

A number is written in groups of seven bits, the lowest first. The high bit of a byte says that
another one follows.

## Main definitions

* `Varint.encode`: the bytes of a number
* `Varint.decodeBelow?`: the number at the front of some bytes, if it is below a bound
* `Varint.decode?`: the number at the front of some bytes, of at most sixty-four bits
-/

namespace TrafficPlane.Wire.Varint

/-- The bytes of a number. -/
def encode (n : Nat) : List UInt8 :=
  if n < 128 then [.ofNat n] else .ofNat (n % 128 + 128) :: encode (n / 128)
termination_by n

/-- Reads a number below `bound` whose bytes so far gave `value` and `places` groups. There are no
more groups than such a number can need. -/
def decodeFrom (bound value : Nat) : Nat → List UInt8 → Option (Nat × List UInt8)
  | _, [] => none
  | places, b :: rest =>
    if bound ≤ Nat.pow 2 (7 * places) then none
    else
      let value := value + (b.toNat % 128) * Nat.pow 2 (7 * places)
      if b.toNat < 128 then if value < bound then some (value, rest) else none
      else decodeFrom bound value (places + 1) rest

/-- The number below `bound` at the front of the bytes, and the bytes after it. -/
def decodeBelow? (bound : Nat) (bytes : List UInt8) : Option (Nat × List UInt8) :=
  decodeFrom bound 0 0 bytes

/-- The number of at most sixty-four bits at the front of the bytes, and the bytes after it. -/
def decode? (bytes : List UInt8) : Option (Nat × List UInt8) :=
  decodeBelow? (Nat.pow 2 64) bytes

end TrafficPlane.Wire.Varint
