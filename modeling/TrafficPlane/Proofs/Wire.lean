import Mathlib.Data.List.Basic
import Mathlib.Tactic.Ring
import TrafficPlane.Wire.Field

/-!
# Reading back what was written

Numbers, texts and fields are read back from the bytes that they are written as, whatever bytes
follow. So the bytes of a message give its fields back, each with its number and its value.

## Main definitions

* `Wire.MessageField.WellFormed`: a field that a reader accepts
* `Wire.MessageField.raw`: the field as it is read

## Main results

* `Wire.Varint.decodeBelow?_encode`: a number is read back, with the bytes after it
* `Wire.textOfBytes?_textBytes`: a text is read back
* `Wire.decodeFields?_encodeFields`: the fields of a message are read back
* `Wire.encodeFields_inj`: the bytes of a message tell its fields
-/

namespace TrafficPlane.Wire

/-! ### Numbers -/

namespace Varint

/-- A reader that already has `places` groups reads the rest of the number on top of them. -/
theorem decodeFrom_encode (bound : Nat) (rest : List UInt8) (n : Nat) :
    ∀ value places, 2 ^ (7 * places) < bound → value + n * 2 ^ (7 * places) < bound →
      decodeFrom bound value places (encode n ++ rest) =
        some (value + n * 2 ^ (7 * places), rest) := by
  fun_induction encode n with
  | case1 n hlast =>
    intro value places hplaces hvalue
    have hbyte : (UInt8.ofNat n).toNat = n := by
      rw [UInt8.toNat_ofNat']
      omega
    simp only [List.cons_append, List.nil_append, decodeFrom, hbyte, Nat.pow_eq]
    rw [if_neg (by omega), if_pos hlast, Nat.mod_eq_of_lt hlast, if_pos hvalue]
  | case2 n hmore ih =>
    intro value places hplaces hvalue
    have hbyte : (UInt8.ofNat (n % 128 + 128)).toNat = n % 128 + 128 := by
      rw [UInt8.toNat_ofNat']
      omega
    have hsum : value + n % 128 * 2 ^ (7 * places) + n / 128 * 2 ^ (7 * (places + 1)) =
        value + n * 2 ^ (7 * places) := by
      calc value + n % 128 * 2 ^ (7 * places) + n / 128 * 2 ^ (7 * (places + 1))
        _ = value + (n % 128 + 128 * (n / 128)) * 2 ^ (7 * places) := by
          rw [Nat.mul_add 7 places 1, Nat.pow_add]
          ring
        _ = value + n * 2 ^ (7 * places) := by rw [Nat.mod_add_div]
    have hnext : 2 ^ (7 * (places + 1)) < bound := by
      -- the number still has a group, so that group's place is below the number itself
      have hgroup : 1 * 2 ^ (7 * (places + 1)) ≤ n / 128 * 2 ^ (7 * (places + 1)) :=
        Nat.mul_le_mul_right _ (by omega)
      omega
    simp only [List.cons_append, decodeFrom, hbyte, Nat.pow_eq]
    rw [if_neg (by omega), if_neg (by omega), Nat.add_mod_right,
      Nat.mod_eq_of_lt (Nat.mod_lt n (by decide)), ih _ _ hnext (hsum ▸ hvalue), hsum]

/-- A number below the bound is read back, with the bytes after it. -/
theorem decodeBelow?_encode {bound n : Nat} (rest : List UInt8) (hbound : 1 < bound)
    (h : n < bound) : decodeBelow? bound (encode n ++ rest) = some (n, rest) := by
  have hread := decodeFrom_encode bound rest n 0 0 (by simpa using hbound) (by simpa using h)
  simpa [decodeBelow?] using hread

/-- A number of at most sixty-four bits is read back, with the bytes after it. -/
theorem decode?_encode {n : Nat} (rest : List UInt8) (h : n < 2 ^ 64) :
    decode? (encode n ++ rest) = some (n, rest) :=
  decodeBelow?_encode rest (by decide) h

theorem length_encode_pos (n : Nat) : 0 < (encode n).length := by
  rw [encode]
  split <;> simp

end Varint

/-! ### Texts -/

/-- A text is read back from its bytes. -/
@[simp] theorem textOfBytes?_textBytes (s : String) : textOfBytes? (textBytes s) = some s := by
  simp only [textOfBytes?, textBytes, Array.toArray_toList, String.fromUTF8?]
  exact dif_pos s.isValidUTF8

theorem textBytes_empty : textBytes "" = [] := rfl

/-- The bytes of a text tell the text. -/
theorem textBytes_injective : Function.Injective textBytes := by
  intro s t h
  have hread := congrArg textOfBytes? h
  simpa using hread

/-! ### Fields -/

/-- The value as it is read. -/
def Value.raw : Value → RawValue
  | .varint n => .varint n
  | .bytes b => .bytes b

namespace MessageField

/-- A field that a reader accepts: its number is one that a key has room for, and so is its value
if that is a number. -/
structure WellFormed (field : MessageField) : Prop where
  number_pos : 0 < field.number
  number_lt : field.number < 2 ^ 29
  value_lt : ∀ n, field.value = .varint n → n < 2 ^ 64

/-- The field as it is read. -/
def raw (field : MessageField) : RawField where
  number := field.number
  value := field.value.raw

theorem length_encode_pos (field : MessageField) : 0 < field.encode.length := by
  cases h : field.value with
  | varint n =>
    simp only [encode, h, List.length_append]
    exact Nat.add_pos_left (Varint.length_encode_pos _) _
  | bytes b =>
    simp only [encode, h, List.length_append]
    exact Nat.add_pos_left (Nat.add_pos_left (Varint.length_encode_pos _) _) _

end MessageField

open MessageField (WellFormed)

theorem readKey?_encode {number form : Nat} (rest : Bytes) (hpos : 0 < number)
    (hlt : number < 2 ^ 29) (hform : form ≤ 5) :
    readKey? (Varint.encode (8 * number + form) ++ rest) = some (number, form, rest) := by
  simp only [readKey?, Varint.decode?_encode rest (by omega : 8 * number + form < 2 ^ 64)]
  have hnumber : (8 * number + form) / 8 = number := by omega
  have hrest : (8 * number + form) % 8 = form := by omega
  rw [hnumber, hrest, if_neg (by omega)]

/-- Bytes are read back after their own length, however many they are. -/
theorem readBytes?_encode (b rest : Bytes) :
    readBytes? (Varint.encode b.length ++ (b ++ rest)) = some (b, rest) := by
  have hpos := Varint.length_encode_pos b.length
  -- the length in front takes a byte of its own, so it is below the number of all bytes
  have hlength : b.length < max (2 ^ 64) (Varint.encode b.length ++ (b ++ rest)).length := by
    simp only [List.length_append]
    omega
  have hread := Varint.decodeBelow?_encode (b ++ rest)
    (Nat.lt_of_lt_of_le (by decide) (Nat.le_max_left (2 ^ 64) _)) hlength
  simp only [readBytes?, Nat.pow_eq, hread, takeExact?]
  simp

/-- A field is read back, with the bytes after it. -/
theorem readField?_encode {field : MessageField} (depth : Nat) (rest : Bytes)
    (h : field.WellFormed) : readField? depth (field.encode ++ rest) = some (field.raw, rest) := by
  obtain ⟨number, value⟩ := field
  cases value with
  | varint n =>
    have hkey := readKey?_encode (Varint.encode n ++ rest) h.number_pos h.number_lt
      (Nat.zero_le 5)
    rw [Nat.add_zero] at hkey
    simp only [readField?, MessageField.encode, List.append_assoc, hkey,
      Varint.decode?_encode rest (h.value_lt n rfl), Option.map_some]
    rfl
  | bytes b =>
    have hkey := readKey?_encode (Varint.encode b.length ++ (b ++ rest)) h.number_pos h.number_lt
      (show 2 ≤ 5 by decide)
    simp only [readField?, MessageField.encode, List.append_assoc, hkey, readBytes?_encode,
      Option.map_some]
    rfl

theorem length_le_length_encodeFields (fields : List MessageField) :
    fields.length ≤ (encodeFields fields).length := by
  induction fields with
  | nil => simp
  | cons field rest ih =>
    have hpos := field.length_encode_pos
    simp only [encodeFields, List.flatMap_cons, List.length_append, List.length_cons] at ih ⊢
    omega

theorem readFields?_encodeFields {fields : List MessageField} (depth : Nat)
    (h : ∀ field ∈ fields, field.WellFormed) :
    ∀ fuel, fields.length ≤ fuel →
      readFields? depth fuel (encodeFields fields) = some (fields.map MessageField.raw) := by
  induction fields with
  | nil =>
    intro fuel _
    cases fuel <;> rfl
  | cons field rest ih =>
    intro fuel hfuel
    obtain ⟨fuel, rfl⟩ := Nat.exists_eq_succ_of_ne_zero (n := fuel) (by
      rintro rfl
      simp at hfuel)
    have hfirst := readField?_encode depth (encodeFields rest) (h field List.mem_cons_self)
    have hrest := ih (fun f hf => h f (List.mem_cons_of_mem _ hf)) fuel (by simpa using hfuel)
    have hsplit : encodeFields (field :: rest) = field.encode ++ encodeFields rest := rfl
    -- the reader stops where there are no more bytes, and a field has at least one
    have hnonempty := field.length_encode_pos
    rw [hsplit]
    cases hbytes : field.encode ++ encodeFields rest with
    | nil =>
      have hlength := congrArg List.length hbytes
      simp only [List.length_append, List.length_nil] at hlength
      omega
    | cons b bytes =>
      rw [hbytes] at hfirst
      simp [readFields?, hfirst, hrest]

/-- The fields of a message are read back from its bytes. -/
theorem decodeFields?_encodeFields {fields : List MessageField} {depth : Nat} (hdepth : depth ≠ 0)
    (h : ∀ field ∈ fields, field.WellFormed) :
    decodeFields? depth (encodeFields fields) = some (fields.map MessageField.raw) := by
  rw [decodeFields?, if_neg hdepth]
  -- the reader may take as many steps as there are bytes, which are no fewer than the fields
  exact readFields?_encodeFields depth h _ (length_le_length_encodeFields fields)

theorem Value.raw_injective : Function.Injective Value.raw := by
  rintro (m | b) (n | c) h <;> simp_all [Value.raw]

theorem MessageField.raw_injective : Function.Injective MessageField.raw := by
  rintro ⟨number, value⟩ ⟨number', value'⟩ h
  obtain ⟨hnumber, hvalue⟩ := RawField.mk.inj h
  exact congr (congrArg MessageField.mk hnumber) (Value.raw_injective hvalue)

/-- The bytes of a message tell its fields. -/
theorem encodeFields_inj {fields others : List MessageField} (h : ∀ f ∈ fields, f.WellFormed)
    (h' : ∀ f ∈ others, f.WellFormed) :
    encodeFields fields = encodeFields others ↔ fields = others := by
  refine ⟨fun heq => ?_, fun heq => heq ▸ rfl⟩
  have hread := decodeFields?_encodeFields Nat.one_ne_zero h
  rw [heq, decodeFields?_encodeFields Nat.one_ne_zero h'] at hread
  exact List.map_injective_iff.mpr MessageField.raw_injective (Option.some.inj hread).symm

end TrafficPlane.Wire
