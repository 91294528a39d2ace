import TrafficPlane.Proofs.Stages
import TrafficPlane.Text.Integer

/-!
# Decimal integers without bounds

A text denotes an integer when it has digits, of which there may be any number, after a sign or
none. Reading within bounds stops as soon as a bound is passed. Since more digits only lead further
away from zero, it gives exactly the integers that lie within the bounds.

## Main definitions

* `Text.decimal?`: the integer that a text denotes

## Main results

* `Text.readInteger_eq_ok_iff`: what is read within bounds that admit negative numbers
-/

namespace TrafficPlane.Text

/-- The number that digits denote when they follow those of another number. -/
def digitsValue (before : Nat) (digits : List Char) : Nat :=
  digits.foldl (fun n c => 10 * n + (c.toNat - '0'.toNat)) before

/-- The number with a sign. -/
def signed (negative : Bool) (n : Nat) : Int :=
  if negative then -n else n

/-- The number that a text denotes that holds nothing but digits, at least one of them. -/
def magnitude? (digits : List Char) : Option Nat :=
  if !digits.isEmpty && digits.all Char.isDigit then some (digitsValue 0 digits) else none

/-- The integer that a text denotes: digits after a sign or none. -/
def decimal? (text : String) : Option Int :=
  match text.toList with
  | '+' :: digits => (magnitude? digits).map (signed false)
  | '-' :: digits => (magnitude? digits).map (signed true)
  | digits => (magnitude? digits).map (signed false)

theorem le_digitsValue (before : Nat) (digits : List Char) : before ≤ digitsValue before digits := by
  induction digits generalizing before with
  | nil => exact Nat.le_refl before
  | cons c rest ih =>
    calc before ≤ 10 * before + (c.toNat - '0'.toNat) := by omega
      _ ≤ digitsValue (10 * before + (c.toNat - '0'.toNat)) rest := ih _

section Bounds

variable {low high : Int} {negative : Bool}

/-- What is nearer to zero than an integer within the bounds lies within them too. -/
theorem signed_bounds (hlow : low ≤ 0) (hhigh : 0 ≤ high) {n m : Nat} (hle : n ≤ m)
    (hm : low ≤ signed negative m ∧ signed negative m ≤ high) :
    low ≤ signed negative n ∧ signed negative n ≤ high := by
  cases negative <;> simp only [signed, Bool.false_eq_true, if_true, if_false] at hm ⊢ <;> omega

/-- One more digit is read if it is one and the bounds admit the number that it makes. -/
theorem appendDigit_eq_ok_iff {n : Nat} {c : Char} {v : Int} :
    appendDigit low high negative (signed negative n) c = .ok v ↔
      c.isDigit ∧ v = signed negative (10 * n + (c.toNat - '0'.toNat)) ∧ low ≤ v ∧ v ≤ high := by
  have hvalue : (if negative then 10 * signed negative n - ((c.toNat - '0'.toNat : Nat) : Int)
      else 10 * signed negative n + ((c.toNat - '0'.toNat : Nat) : Int)) =
      signed negative (10 * n + (c.toNat - '0'.toNat)) := by
    cases negative <;> simp only [signed, Bool.false_eq_true, if_true, if_false] <;> omega
  rw [appendDigit]
  simp only [hvalue]
  split_ifs with hdigit hlow hhigh
  · exact iff_of_false nofun (by omega)
  · exact iff_of_false nofun (by omega)
  · rw [Except.ok.injEq]
    exact ⟨fun h => ⟨hdigit, h.symm, by omega, by omega⟩, fun h => h.2.1.symm⟩
  · simp [hdigit]

/-- Digits are read one by one if the bounds admit the number that all of them make. -/
theorem foldlM_appendDigit_eq_ok_iff (hlow : low ≤ 0) (hhigh : 0 ≤ high) {n : Nat}
    (hn : low ≤ signed negative n ∧ signed negative n ≤ high) {digits : List Char} {v : Int} :
    digits.foldlM (appendDigit low high negative) (signed negative n) = .ok v ↔
      (∀ c ∈ digits, c.isDigit) ∧ v = signed negative (digitsValue n digits) ∧
        low ≤ v ∧ v ≤ high := by
  induction digits generalizing n with
  | nil =>
    simp only [List.foldlM_nil, pure, Except.pure, Except.ok.injEq, digitsValue, List.foldl_nil]
    constructor
    · rintro rfl
      exact ⟨nofun, rfl, hn⟩
    · rintro ⟨-, rfl, -⟩
      rfl
  | cons c rest ih =>
    rw [List.foldlM_cons, bind_eq_ok_iff, List.forall_mem_cons]
    simp only [appendDigit_eq_ok_iff]
    constructor
    · rintro ⟨_, ⟨hdigit, rfl, hbounds⟩, hrest⟩
      obtain ⟨hdigits, hv, hfits⟩ := (ih hbounds).mp hrest
      exact ⟨⟨hdigit, hdigits⟩, hv, hfits⟩
    · rintro ⟨⟨hdigit, hdigits⟩, hv, hfits⟩
      -- the number made so far lies between zero and the number that all digits make
      have hbounds := signed_bounds hlow hhigh
        (le_digitsValue (10 * n + (c.toNat - '0'.toNat)) rest) (hv ▸ hfits)
      exact ⟨_, ⟨hdigit, rfl, hbounds⟩, (ih hbounds).mpr ⟨hdigits, hv, hfits⟩⟩

theorem readDigits_eq_ok_iff (hlow : low ≤ 0) (hhigh : 0 ≤ high) {digits : List Char} {v : Int} :
    readDigits low high negative digits = .ok v ↔
      (magnitude? digits).map (signed negative) = some v ∧ low ≤ v ∧ v ≤ high := by
  cases digits with
  | nil => simp [readDigits, magnitude?]
  | cons c rest =>
    have hzero : signed negative 0 = 0 := by cases negative <;> rfl
    have hread : (c :: rest).foldlM (appendDigit low high negative) 0 = .ok v ↔
        (∀ d ∈ c :: rest, d.isDigit) ∧ v = signed negative (digitsValue 0 (c :: rest)) ∧
          low ≤ v ∧ v ≤ high :=
      hzero ▸ foldlM_appendDigit_eq_ok_iff hlow hhigh (by omega)
    rw [readDigits, hread, magnitude?, List.isEmpty_cons, Bool.not_false, Bool.true_and]
    · split_ifs with hdigits
      · rw [Option.map_some, Option.some.injEq, eq_comm (b := v)]
        exact ⟨fun h => h.2, fun h => ⟨List.all_eq_true.mp hdigits, h⟩⟩
      · have hnot : ¬ ∀ d ∈ c :: rest, d.isDigit := fun h => hdigits (List.all_eq_true.mpr h)
        simp only [hnot, false_and, Option.map_none, reduceCtorEq]
    · exact nofun

/-- Within bounds that admit negative numbers, exactly the integers within them are read. -/
theorem readInteger_eq_ok_iff (hlow : low < 0) (hhigh : 0 ≤ high) {text : String} {v : Int} :
    readInteger low high text = .ok v ↔ decimal? text = some v ∧ low ≤ v ∧ v ≤ high := by
  have hdigits : ∀ negative digits, readDigits low high negative digits = .ok v ↔
      (magnitude? digits).map (signed negative) = some v ∧ low ≤ v ∧ v ≤ high :=
    fun _ _ => readDigits_eq_ok_iff (Int.le_of_lt hlow) hhigh
  rw [readInteger, decimal?]
  split
  · next heq => simp [heq, magnitude?]
  · next heq => simp only [heq, hdigits]
  · next heq => simp only [heq, if_pos hlow, hdigits]
  · next hnil hplus hminus =>
    split
    · next heq => exact absurd heq (hplus _)
    · next heq => exact absurd heq (hminus _)
    · exact hdigits false _

end Bounds

end TrafficPlane.Text
