import TrafficPlane.Wire.Varint

/-!
# Fields of binary messages

A message is a sequence of fields, each with a number and a value. A value is a number or a string
of bytes, which may hold a text or another message. Fields that hold nothing are left out by the
writers of the types that have them.

## Main definitions

* `MessageField`: a field as it is written
* `encodeFields`: the bytes of a message
* `RawField`: a field as it is read
* `decodeFields?`: the fields that some bytes hold
-/

namespace TrafficPlane.Wire

/-- The bytes of a message or of a value. -/
abbrev Bytes := List UInt8

/-- The value of a field that is written. -/
inductive Value where
  | varint (n : Nat)
  | bytes (b : Bytes)
deriving DecidableEq, Repr

/-- A field that is written. -/
structure MessageField where
  number : Nat
  value : Value
deriving DecidableEq, Repr

/-- The bytes of a text in UTF-8. -/
def textBytes (s : String) : Bytes :=
  s.toUTF8.data.toList

/-- The text that bytes in UTF-8 stand for. -/
def textOfBytes? (b : Bytes) : Option String :=
  String.fromUTF8? ⟨b.toArray⟩

namespace MessageField

/-- The bytes of a field. -/
def encode (field : MessageField) : Bytes :=
  match field.value with
  | .varint n => Varint.encode (8 * field.number) ++ Varint.encode n
  | .bytes b => Varint.encode (8 * field.number + 2) ++ Varint.encode b.length ++ b

end MessageField

/-- The bytes of a message. -/
def encodeFields (fields : List MessageField) : Bytes :=
  fields.flatMap MessageField.encode

/-- A number, which is left out when it is zero. -/
def number (field : Nat) (n : Nat) : List MessageField :=
  if n = 0 then [] else [⟨field, .varint n⟩]

/-- A truth value, which is left out when it is false. -/
def flag (field : Nat) (b : Bool) : List MessageField :=
  if b then [⟨field, .varint 1⟩] else []

/-- A text, which is left out when it is empty. -/
def text (field : Nat) (s : String) : List MessageField :=
  if s = "" then [] else [⟨field, .bytes (textBytes s)⟩]

/-- A text that is written even when it is empty. -/
def presentText (field : Nat) (s : String) : MessageField :=
  ⟨field, .bytes (textBytes s)⟩

/-- A message within a message, which is written even when it has no fields. -/
def message (field : Nat) (fields : List MessageField) : MessageField :=
  ⟨field, .bytes (encodeFields fields)⟩

/-- A message that may be missing. -/
def optional (field : Nat) (fields : Option (List MessageField)) : List MessageField :=
  (fields.map (message field)).toList

/-- The value of a field that is read. Values of other forms than numbers and bytes are passed
over. -/
inductive RawValue where
  | varint (n : Nat)
  | bytes (b : Bytes)
  | skipped
deriving DecidableEq, Repr

/-- A field that is read. -/
structure RawField where
  number : Nat
  value : RawValue
deriving DecidableEq, Repr

/-- The number and the form of the value of the next field. -/
def readKey? (bytes : Bytes) : Option (Nat × Nat × Bytes) :=
  match Varint.decode? bytes with
  | some (key, rest) =>
    if 4294967295 < key ∨ key / 8 = 0 ∨ 5 < key % 8 then none else some (key / 8, key % 8, rest)
  | none => none

/-- Cuts a number of bytes from the front. -/
def takeExact? (n : Nat) (bytes : Bytes) : Option (Bytes × Bytes) :=
  if n ≤ bytes.length then some (bytes.take n, bytes.drop n) else none

/-- The bytes after their own length. A length has sixty-four bits, which is enough for all bytes
that fit into a memory; only bytes beyond that would have a longer one. -/
def readBytes? (bytes : Bytes) : Option (Bytes × Bytes) :=
  match Varint.decodeBelow? (max (Nat.pow 2 64) bytes.length) bytes with
  | some (n, rest) => takeExact? n rest
  | none => none

mutual

/-- Passes over a value of the given form, with groups at most `depth` deep. -/
def skipValue? (fuel depth number form : Nat) (bytes : Bytes) : Option Bytes :=
  match fuel, depth with
  | 0, _ => none
  | _, 0 => none
  | fuel + 1, depth + 1 =>
    match form with
    | 0 => (Varint.decode? bytes).map (·.2)
    | 1 => (takeExact? 8 bytes).map (·.2)
    | 2 => (readBytes? bytes).map (·.2)
    | 3 => skipGroup? fuel depth number bytes
    | 5 => (takeExact? 4 bytes).map (·.2)
    | _ => none
termination_by fuel

/-- Passes over the fields of a group up to the mark that ends it. -/
def skipGroup? (fuel depth number : Nat) (bytes : Bytes) : Option Bytes :=
  match fuel with
  | 0 => none
  | fuel + 1 =>
    match readKey? bytes with
    | none => none
    | some (inner, 4, rest) => if inner = number then some rest else none
    | some (inner, form, rest) =>
      match skipValue? fuel depth inner form rest with
      | some rest => skipGroup? fuel depth number rest
      | none => none
termination_by fuel

end

/-- The next field. -/
def readField? (depth : Nat) (bytes : Bytes) : Option (RawField × Bytes) :=
  match readKey? bytes with
  | none => none
  | some (number, 0, rest) =>
    (Varint.decode? rest).map fun (n, rest) => (⟨number, .varint n⟩, rest)
  | some (number, 2, rest) =>
    (readBytes? rest).map fun (b, rest) => (⟨number, .bytes b⟩, rest)
  | some (number, form, rest) =>
    (skipValue? (2 * rest.length + 2) depth number form rest).map fun rest =>
      (⟨number, .skipped⟩, rest)

/-- The fields of a message, at most as many as the first argument says. -/
def readFields? (depth : Nat) : Nat → Bytes → Option (List RawField)
  | _, [] => some []
  | 0, _ :: _ => none
  | fuel + 1, bytes =>
    match readField? depth bytes with
    | some (field, rest) => (readFields? depth fuel rest).map (field :: ·)
    | none => none

/-- The fields that some bytes hold, where messages and groups nest at most `depth` deep. -/
def decodeFields? (depth : Nat) (bytes : Bytes) : Option (List RawField) :=
  if depth = 0 then none else readFields? depth bytes.length bytes

end TrafficPlane.Wire
