import Mathlib.Data.List.Basic
import TrafficPlane.Proofs.Wire

/-!
# Messages that their fields tell

A writer is faithful if the fields that it writes tell the value that it wrote. Writers of parts that
have numbers of their own are put together to a writer of all the parts, which is faithful if they
are.

## Main definitions

* `Wire.Faithful`: the fields that are written tell the value, and have certain numbers

## Main results

* `Wire.Faithful.append`, `Wire.Faithful.either`: the writer of two parts and of two alternatives
* `Wire.Faithful.built`: the writer of what is built from parts or from alternatives
* `Wire.Faithful.list`, `Wire.Faithful.optional`: the writers of many values and of at most one
* `Wire.Faithful.encode_injective`: the bytes of a message tell the value
-/

namespace TrafficPlane.Wire

/-- The fields that are written tell the value. They have numbers from a list, and numbers in them
have at most sixty-four bits. -/
structure Faithful {α : Type} (numbers : List Nat) (write : α → List MessageField) : Prop where
  number_mem : ∀ a, ∀ field ∈ write a, field.number ∈ numbers
  value_lt : ∀ a, ∀ field ∈ write a, ∀ n, field.value = .varint n → n < 2 ^ 64
  injective : Function.Injective write

namespace Faithful

variable {α β γ : Type} {numbers others : List Nat} {write : α → List MessageField}
  {write' : β → List MessageField}

theorem wellFormed (h : Faithful numbers write) (hnumbers : ∀ n ∈ numbers, 0 < n ∧ n < 2 ^ 29)
    (a : α) : ∀ field ∈ write a, field.WellFormed := fun field hfield =>
  have hnumber := hnumbers _ (h.number_mem a field hfield)
  ⟨hnumber.1, hnumber.2, h.value_lt a field hfield⟩

/-- The bytes of what is written tell the value, if a key has room for the numbers of its fields. -/
theorem encode_injective (h : Faithful numbers write)
    (hnumbers : ∀ n ∈ numbers, 0 < n ∧ n < 2 ^ 29) :
    Function.Injective fun a => encodeFields (write a) := fun a b heq =>
  h.injective ((encodeFields_inj (h.wellFormed hnumbers a) (h.wellFormed hnumbers b)).mp heq)

/-! ### Putting writers together -/

/-- Two parts whose fields have different numbers are told apart. -/
theorem append (h : Faithful numbers write) (h' : Faithful others write')
    (hdisjoint : ∀ n ∈ numbers, n ∉ others) :
    Faithful (numbers ++ others) fun pair : α × β => write pair.1 ++ write' pair.2 where
  number_mem := fun pair field hfield => List.mem_append.mpr <|
    (List.mem_append.mp hfield).imp (h.number_mem pair.1 field) (h'.number_mem pair.2 field)
  value_lt := fun pair field hfield =>
    (List.mem_append.mp hfield).elim (h.value_lt pair.1 field) (h'.value_lt pair.2 field)
  injective := by
    intro pair pair' heq
    -- the fields with numbers of the first part are those that the first part writes
    have hfirst : ∀ p : α × β,
        (write p.1 ++ write' p.2).filter (·.number ∈ numbers) = write p.1 := by
      intro p
      rw [List.filter_append, List.filter_eq_self.mpr, List.filter_eq_nil_iff.mpr, List.append_nil]
      · intro field hfield
        simpa using fun hmem => hdisjoint _ hmem (h'.number_mem p.2 field hfield)
      · intro field hfield
        simpa using h.number_mem p.1 field hfield
    have hwritten : write pair.1 = write pair'.1 := by
      rw [← hfirst pair, ← hfirst pair']
      exact congrArg _ heq
    have hrest : write' pair.2 = write' pair'.2 := by
      dsimp only at heq
      rw [hwritten] at heq
      exact List.append_cancel_left heq
    exact Prod.ext (h.injective hwritten) (h'.injective hrest)

/-- Values that are all built from others, and written as those, are told as those are. -/
theorem built (h : Faithful numbers write) (build : α → γ) (hbuild : Function.Surjective build)
    {writeBuilt : γ → List MessageField} (hwrite : ∀ a, writeBuilt (build a) = write a) :
    Faithful numbers writeBuilt where
  number_mem := by
    intro c field hfield
    obtain ⟨a, rfl⟩ := hbuild c
    exact h.number_mem a field (hwrite a ▸ hfield)
  value_lt := by
    intro c field hfield
    obtain ⟨a, rfl⟩ := hbuild c
    exact h.value_lt a field (hwrite a ▸ hfield)
  injective := by
    intro c d heq
    obtain ⟨a, rfl⟩ := hbuild c
    obtain ⟨b, rfl⟩ := hbuild d
    rw [hwrite, hwrite] at heq
    rw [h.injective heq]

section Field

variable {field : α → MessageField} {field' : β → MessageField}

/-- Two alternatives whose fields have different numbers are told apart. -/
theorem either (h : Faithful numbers fun a => [field a]) (h' : Faithful others fun b => [field' b])
    (hdisjoint : ∀ n ∈ numbers, n ∉ others) :
    Faithful (numbers ++ others) fun choice : α ⊕ β => [choice.elim field field'] where
  number_mem := by
    rintro (a | b) f hf
    · exact List.mem_append_left _ (h.number_mem a f hf)
    · exact List.mem_append_right _ (h'.number_mem b f hf)
  value_lt := by
    rintro (a | b) f hf
    · exact h.value_lt a f hf
    · exact h'.value_lt b f hf
  injective := by
    have hne : ∀ a b, field a ≠ field' b := fun a b heq =>
      hdisjoint _ (h.number_mem a _ List.mem_cons_self)
        (heq ▸ h'.number_mem b _ List.mem_cons_self)
    rintro (a | b) (c | d) heq
    · exact congrArg Sum.inl (h.injective heq)
    · exact absurd (List.cons.inj heq).1 (hne a d)
    · exact absurd (List.cons.inj heq).1.symm (hne c b)
    · exact congrArg Sum.inr (h'.injective heq)

/-- A list that is written field by field. -/
theorem list (h : Faithful numbers fun a => [field a]) :
    Faithful numbers fun as : List α => as.map field where
  number_mem := by
    intro as f hf
    obtain ⟨a, -, rfl⟩ := List.mem_map.mp hf
    exact h.number_mem a _ List.mem_cons_self
  value_lt := by
    intro as f hf
    obtain ⟨a, -, rfl⟩ := List.mem_map.mp hf
    exact h.value_lt a _ List.mem_cons_self
  injective := List.map_injective_iff.mpr fun a b heq => h.injective (congrArg (fun f => [f]) heq)

/-- A field that is left out when there is nothing to write. -/
theorem option (h : Faithful numbers fun a => [field a]) :
    Faithful numbers fun o : Option α => (o.map field).toList where
  number_mem := by
    rintro (_ | a) f hf
    · exact absurd hf List.not_mem_nil
    · exact h.number_mem a f hf
  value_lt := by
    rintro (_ | a) f hf
    · exact absurd hf List.not_mem_nil
    · exact h.value_lt a f hf
  injective := by
    rintro (_ | a) (_ | b) heq
    · rfl
    · exact absurd heq nofun
    · exact absurd heq nofun
    · exact congrArg some (h.injective heq)

/-- A field that is left out for one value. -/
theorem skipping (h : Faithful numbers fun a => [field a]) (skipped : α → Prop)
    [DecidablePred skipped] (hunique : ∀ a b, skipped a → skipped b → a = b) :
    Faithful numbers fun a => if skipped a then [] else [field a] where
  number_mem := by
    intro a f hf
    split_ifs at hf
    · exact absurd hf List.not_mem_nil
    · exact h.number_mem a f hf
  value_lt := by
    intro a f hf
    split_ifs at hf
    · exact absurd hf List.not_mem_nil
    · exact h.value_lt a f hf
  injective := by
    intro a b heq
    dsimp only at heq
    split_ifs at heq with ha hb hb
    · exact hunique a b ha hb
    · exact h.injective heq

end Field

/-! ### Single fields -/

/-- A field that every value has, with what is written in it. -/
theorem single (k : Nat) {value : α → Value} (hinj : Function.Injective value)
    (hlt : ∀ a n, value a = .varint n → n < 2 ^ 64) : Faithful [k] fun a => [⟨k, value a⟩] where
  number_mem := by simp
  value_lt := by
    intro a f hf
    obtain rfl := List.mem_singleton.mp hf
    exact hlt a
  injective := fun a b heq => hinj (by simpa using heq)

theorem varint (k : Nat) {measure : α → Nat} (hinj : Function.Injective measure)
    (hlt : ∀ a, measure a < 2 ^ 64) : Faithful [k] fun a => [⟨k, .varint (measure a)⟩] :=
  single k (fun _ _ heq => hinj (Value.varint.inj heq)) fun a _ heq => Value.varint.inj heq ▸ hlt a

theorem number (k : Nat) {measure : α → Nat} (hinj : Function.Injective measure)
    (hlt : ∀ a, measure a < 2 ^ 64) : Faithful [k] fun a => number k (measure a) :=
  skipping (varint k hinj hlt) (fun a => measure a = 0) fun _ _ ha hb => hinj (ha.trans hb.symm)

theorem bytes (k : Nat) {content : α → Bytes} (hinj : Function.Injective content) :
    Faithful [k] fun a => [⟨k, .bytes (content a)⟩] :=
  single k (fun _ _ heq => hinj (Value.bytes.inj heq)) fun _ _ heq => nomatch heq

theorem presentText (k : Nat) : Faithful [k] fun s => [presentText k s] :=
  bytes k textBytes_injective

theorem text (k : Nat) : Faithful [k] (text k) :=
  skipping (presentText k) (· = "") fun _ _ hs ht => hs.trans ht.symm

/-- A field that is the same for all values. -/
theorem constant (f : MessageField) (hf : ∀ n, f.value = .varint n → n < 2 ^ 64) :
    Faithful [f.number] fun _ : Unit => [f] where
  number_mem := by simp
  value_lt := fun _ g hg => List.mem_singleton.mp hg ▸ hf
  injective := fun _ _ _ => rfl

/-- A field that is written for the one truth value and left out for the other. -/
theorem mark (f : MessageField) (hf : ∀ n, f.value = .varint n → n < 2 ^ 64) :
    Faithful [f.number] fun b : Bool => if b then [f] else [] where
  number_mem := by rintro (_ | _) <;> simp
  value_lt := by
    rintro (_ | _) g hg
    · exact absurd hg List.not_mem_nil
    · exact List.mem_singleton.mp hg ▸ hf
  injective := by rintro (_ | _) (_ | _) heq <;> simp_all

theorem flag (k : Nat) : Faithful [k] (flag k) :=
  mark ⟨k, .varint 1⟩ fun _ heq => Value.varint.inj heq ▸ by decide

/-! ### Messages within messages -/

theorem message (k : Nat) (h : Faithful numbers write)
    (hnumbers : ∀ n ∈ numbers, 0 < n ∧ n < 2 ^ 29) :
    Faithful [k] fun a => [message k (write a)] :=
  bytes k (h.encode_injective hnumbers)

theorem optional (k : Nat) (h : Faithful numbers write)
    (hnumbers : ∀ n ∈ numbers, 0 < n ∧ n < 2 ^ 29) :
    Faithful [k] fun o : Option α => optional k (o.map write) := by
  have hoption := option (message k h hnumbers)
  simpa only [Wire.optional, Option.map_map, Function.comp_def] using hoption

/-- A message without fields that is there or not. -/
theorem emptyMessage (k : Nat) :
    Faithful [k] fun b : Bool => if b then [Wire.message k []] else [] :=
  mark (Wire.message k []) fun _ heq => nomatch heq

/-- A message without fields that is always there. -/
theorem constantMessage (k : Nat) : Faithful [k] fun _ : Unit => [Wire.message k []] :=
  constant (Wire.message k []) fun _ heq => nomatch heq

end Faithful

end TrafficPlane.Wire
