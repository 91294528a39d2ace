import TrafficPlane.Fault

/-!
# Documents

A document is what a text format such as JSON or YAML writes down: scalars, lists and maps. Values
of the library's types are read from documents and written as documents.

## Main definitions

* `Doc`: a document
* `Codec`: how the values of a type are read and written
-/

namespace TrafficPlane

/-- A document. Entries of a map stay in the order in which they were written. -/
inductive Doc where
  | null
  | bool (value : Bool)
  | int (value : Int)
  /-- A number that is no integer. No type of this library holds one. -/
  | real (value : Float)
  | text (value : String)
  | list (items : List Doc)
  | map (entries : List (Doc × Doc))
  /-- A document that names a type of its own. No type of this library has such a name. -/
  | tagged (tag : String) (content : Doc)
deriving Inhabited, Repr

/-- How the values of a type are read from documents and written as documents. -/
structure Codec (α : Type) where
  read : Doc → Except DocumentFault α
  write : α → Doc

namespace Codec

/-- Texts. -/
def text : Codec String where
  read
    | .text value => .ok value
    | _ => .error .malformed
  write := .text

/-- Truth values. -/
def bool : Codec Bool where
  read
    | .bool value => .ok value
    | _ => .error .malformed
  write := .bool

/-- The integers from `low` to `high`, which the two functions take to a type and back. -/
def integer {α : Type} (low high : Int) (ofInt : Int → α) (toInt : α → Int) : Codec α where
  read
    | .int value =>
      if low ≤ value ∧ value ≤ high then .ok (ofInt value) else .error .malformed
    | _ => .error .malformed
  write value := .int (toInt value)

/-- Integers of sixteen bits without a sign. -/
def uint16 : Codec UInt16 :=
  integer 0 65535 (fun n => .ofNat n.toNat) (fun n => n.toNat)

/-- Integers of thirty-two bits without a sign. -/
def uint32 : Codec UInt32 :=
  integer 0 4294967295 (fun n => .ofNat n.toNat) (fun n => n.toNat)

/-- Integers of sixty-four bits without a sign. -/
def uint64 : Codec UInt64 :=
  integer 0 18446744073709551615 (fun n => .ofNat n.toNat) (fun n => n.toNat)

/-- Integers of sixty-four bits with a sign. -/
def int64 : Codec Int64 :=
  integer (-9223372036854775808) 9223372036854775807 Int64.ofInt Int64.toInt

/-- Lists of values, of which the first bad one decides the fault. -/
def list {α : Type} (item : Codec α) : Codec (List α) where
  read
    | .list items => items.mapM item.read
    | _ => .error .malformed
  write values := .list (values.map item.write)

/-- A value or nothing, for which the null document stands. -/
def option {α : Type} (value : Codec α) : Codec (Option α) where
  read
    | .null => .ok none
    | doc => some <$> value.read doc
  write
    | none => .null
    | some v => value.write v

end Codec

end TrafficPlane
