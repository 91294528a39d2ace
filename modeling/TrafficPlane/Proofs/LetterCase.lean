import Mathlib.Data.List.Forall2
import TrafficPlane.Text.Slice

/-!
# Letter case

A text in lower case stays as it is when it is put in lower case again, so names that went through
the mapping on both sides of a comparison may go through it once more. Up to the case of ASCII
letters, a text starts with another one if its characters do: the cut by bytes on which the test
rests never makes a difference.

## Main definitions

* `Text.Lowered`: the character is its own small letter, wherever it stands
* `Text.codeMask`: a set of code points as the bits of a number

## Main results

* `Text.toLower_toLower`: lower case is reached at once
* `Text.toLower_eq_empty_iff`: nothing vanishes in lower case
* `Text.startsIgnoringCase_iff`: the front of a text, character by character
-/

namespace TrafficPlane.Text

open Unicode

/-! ### Lower case -/

/-- The set of some code points, as the bits of a number. -/
def codeMask (codes : List Nat) : Nat :=
  codes.foldr (fun code mask => mask ||| Nat.pow 2 code) 0

theorem testBit_codeMask {codes : List Nat} {code : Nat} :
    (codeMask codes).testBit code ↔ code ∈ codes := by
  induction codes with
  | nil => simp [codeMask]
  | cons first rest ih =>
    rw [codeMask, List.foldr_cons, ← codeMask, Nat.testBit_or, Bool.or_eq_true, ih,
      Nat.pow_eq, Nat.testBit_two_pow, decide_eq_true_iff, List.mem_cons]
    exact or_comm.trans (or_congr_left eq_comm)

/-- The character is its own small letter, wherever in a text it stands. -/
structure Lowered (c : Char) : Prop where
  ne_sigma : c ≠ 'Σ'
  ascii : c.toNat < 128 → c.toLower = c
  fixed : 128 ≤ c.toNat → mapCase lowerGroups c = [c]

/-- The code points that change in lower case. -/
def changedCodes : List Nat := lowerGroups.map (·.headD 0)

/-- A character whose code point does not change is left alone. -/
theorem mapCase_eq_self {c : Char} (h : c.toNat ∉ changedCodes) : mapCase lowerGroups c = [c] := by
  have hnone : lowerGroups.find? (·.head? == some c.toNat) = none := by
    rw [List.find?_eq_none]
    intro group hgroup heq
    refine h (List.mem_map.mpr ⟨group, hgroup, ?_⟩)
    rw [List.headD_eq_head?_getD, eq_of_beq heq, Option.getD_some]
  rw [mapCase, hnone]

/-- What the table of small letters leads to does not change any further. -/
theorem images_lowered : lowerGroups.all fun group => group.tail.all fun code =>
    code.isValidChar && code != 'Σ'.toNat && !(codeMask changedCodes).testBit code &&
      (128 ≤ code || (Char.ofNat code).toLower == Char.ofNat code) := by
  decide +kernel

theorem toNat_ofNat {code : Nat} (h : code.isValidChar) : (Char.ofNat code).toNat = code := by
  rw [Char.ofNat, dif_pos h]
  rfl

theorem lowered_of_mem_mapCase {c image : Char} (hc : c ≠ 'Σ') (hwide : 128 ≤ c.toNat)
    (h : image ∈ mapCase lowerGroups c) : Lowered image := by
  rw [mapCase] at h
  split at h
  case h_2 hnone =>
    -- the character stands alone in the result, and the table still has nothing for it
    obtain rfl := List.mem_singleton.mp h
    exact ⟨hc, fun hlt => absurd hwide (by omega), fun _ => by rw [mapCase, hnone]⟩
  case h_1 group hfind =>
    obtain ⟨code, hcode, rfl⟩ := List.mem_map.mp h
    have hall := List.all_eq_true.mp
      (List.all_eq_true.mp images_lowered group (List.mem_of_find?_eq_some hfind)) code hcode
    simp only [Bool.and_eq_true, bne_iff_ne, Bool.not_eq_true', Bool.or_eq_true, decide_eq_true_iff,
      beq_iff_eq] at hall
    -- the check of the table, with the code point as a character again
    obtain ⟨⟨⟨hvalid, hsigma⟩, hchanged⟩, hascii⟩ := hall
    have hcode : (Char.ofNat code).toNat = code := toNat_ofNat hvalid
    have hmem : (Char.ofNat code).toNat ∉ changedCodes := by
      rw [hcode, ← testBit_codeMask, hchanged]
      exact Bool.false_ne_true
    refine ⟨fun heq => hsigma (heq ▸ hcode.symm), fun hlt => ?_, fun _ => mapCase_eq_self hmem⟩
    exact hascii.resolve_left (by omega)

/-- A small letter of ASCII stays one. -/
theorem lowered_toLower {c : Char} (hc : c.toNat < 128) : Lowered c.toLower := by
  have hall : ∀ n < 128, (Char.ofNat n).toLower ≠ 'Σ' ∧ (Char.ofNat n).toLower.toNat < 128 ∧
      (Char.ofNat n).toLower.toLower = (Char.ofNat n).toLower := by
    decide +kernel
  obtain ⟨hsigma, hlt, hsame⟩ := hall c.toNat hc
  rw [Char.ofNat_toNat] at hsigma hlt hsame
  exact ⟨hsigma, fun _ => hsame, fun hwide => absurd hlt (by omega)⟩

/-- The two forms of a small sigma are not capital letters. -/
theorem lowered_sigma {c : Char} (h : c = 'ς' ∨ c = 'σ') : Lowered c := by
  have hmem : c.toNat ∉ changedCodes := by
    rw [← testBit_codeMask]
    rcases h with rfl | rfl <;> decide +kernel
  refine ⟨?_, fun hlt => ?_, fun _ => mapCase_eq_self hmem⟩
  · rcases h with rfl | rfl <;> decide
  · rcases h with rfl | rfl <;> exact absurd hlt (by decide)

theorem lowered_of_mem_lowerList {before cs : List Char} {c : Char} (h : c ∈ lowerList before cs) :
    Lowered c := by
  induction cs generalizing before with
  | nil => exact absurd h List.not_mem_nil
  | cons first rest ih =>
    rw [lowerList] at h
    rcases List.mem_append.mp h with hfirst | hrest
    · split_ifs at hfirst with hsigma hlast hascii
      · exact lowered_sigma (.inl (List.mem_singleton.mp hfirst))
      · exact lowered_sigma (.inr (List.mem_singleton.mp hfirst))
      · exact List.mem_singleton.mp hfirst ▸ lowered_toLower hascii
      · exact lowered_of_mem_mapCase hsigma (Nat.le_of_not_lt hascii) hfirst
    · exact ih hrest

theorem lowerList_eq_self {before cs : List Char} (h : ∀ c ∈ cs, Lowered c) :
    lowerList before cs = cs := by
  induction cs generalizing before with
  | nil => rfl
  | cons first rest ih =>
    obtain ⟨hfirst, hrest⟩ := List.forall_mem_cons.mp h
    rw [lowerList, if_neg hfirst.ne_sigma, ih hrest]
    split_ifs with hascii
    · rw [hfirst.ascii hascii, List.singleton_append]
    · rw [hfirst.fixed (Nat.le_of_not_lt hascii), List.singleton_append]

/-- A text in lower case stays as it is in lower case, also where the final form of a letter hung on
its neighbours. -/
@[simp] theorem toLower_toLower (s : String) : toLower (toLower s) = toLower s := by
  rw [toLower, toLower, String.toList_ofList, lowerList_eq_self fun c => lowered_of_mem_lowerList]

/-- The table of small letters lets no character vanish. -/
theorem mapCase_lowerGroups_ne_nil (c : Char) : mapCase lowerGroups c ≠ [] := by
  have hall : lowerGroups.all (!·.tail.isEmpty) := by decide +kernel
  rw [mapCase]
  split
  · next group hgroup =>
    have himage := List.all_eq_true.mp hall group (List.mem_of_find?_eq_some hgroup)
    exact mt List.map_eq_nil_iff.mp (by simpa using himage)
  · exact List.cons_ne_nil _ _

/-- Only the empty text is empty in lower case. -/
theorem toLower_eq_empty_iff {s : String} : toLower s = "" ↔ s = "" := by
  have hlist : ∀ cs : List Char, lowerList [] cs = [] ↔ cs = [] := by
    rintro (_ | ⟨c, rest⟩)
    · exact iff_of_true rfl rfl
    · refine iff_of_false (fun h => ?_) (List.cons_ne_nil _ _)
      rw [lowerList] at h
      have hfirst := (List.append_eq_nil_iff.mp h).1
      split_ifs at hfirst
      exact mapCase_lowerGroups_ne_nil c hfirst
  have hempty : ∀ t : String, t = "" ↔ t.toList = [] := fun _ => String.toList_inj.symm
  rw [hempty, hempty, toLower, String.toList_ofList]
  exact hlist s.toList

/-! ### Fronts up to the case of ASCII letters -/

/-- The number of bytes that characters take in UTF-8. -/
def byteCount (cs : List Char) : Nat := cs.foldr (fun c count => c.utf8Size + count) 0

@[simp] theorem byteCount_nil : byteCount [] = 0 := rfl

theorem byteCount_cons (c : Char) (cs : List Char) :
    byteCount (c :: cs) = c.utf8Size + byteCount cs := rfl

theorem byteCount_toList (s : String) : byteCount s.toList = s.utf8ByteSize := by
  have hof : ∀ cs : List Char, byteCount cs = (String.ofList cs).utf8ByteSize := fun cs => by
    induction cs with
    | nil => rfl
    | cons c cs ih =>
      rw [byteCount_cons, ih, ← List.singleton_append, String.ofList_append,
        String.utf8ByteSize_append, ← String.singleton_eq_ofList, String.utf8ByteSize_singleton]
  rw [hof, String.ofList_toList]

/-- A letter of ASCII takes one byte in either case. -/
theorem utf8Size_toLower (c : Char) : c.toLower.utf8Size = c.utf8Size := by
  by_cases hc : c.toNat < 128
  · have hall : ∀ n < 128, (Char.ofNat n).toLower.utf8Size = (Char.ofNat n).utf8Size := by
      decide +kernel
    rw [← Char.ofNat_toNat c]
    exact hall c.toNat hc
  · have hnot : ¬ (c.val ≥ 65 ∧ c.val ≤ 90) := fun h =>
      hc (Nat.lt_of_le_of_lt (UInt32.le_iff_toNat_le.mp h.2) (by decide))
    exact congrArg Char.utf8Size (dif_neg hnot)

/-- Characters that agree up to the case of ASCII letters take as many bytes. -/
theorem byteCount_congr {cs ds : List Char} (h : cs.map Char.toLower = ds.map Char.toLower) :
    byteCount cs = byteCount ds := by
  have hsize : ∀ cs : List Char, byteCount (cs.map Char.toLower) = byteCount cs := fun cs => by
    rw [byteCount, byteCount, List.foldr_map]
    simp only [utf8Size_toLower]
  rw [← hsize cs, h, hsize ds]

/-- The front of a given size is the one that takes as many bytes. -/
theorem takeBytes?_eq_some_iff {n : Nat} {cs front : List Char} :
    takeBytes? n cs = some front ↔ front <+: cs ∧ byteCount front = n := by
  induction cs generalizing n front with
  | nil =>
    cases front <;> cases n <;> simp [takeBytes?]
  | cons c rest ih =>
    have hpos := c.utf8Size_pos
    cases front with
    | nil =>
      cases n <;> simp [takeBytes?]
    | cons d front =>
      rw [List.cons_prefix_cons, byteCount_cons]
      have hd := d.utf8Size_pos
      cases n with
      | zero =>
        simp only [takeBytes?, Option.some.injEq, reduceCtorEq, false_iff]
        omega
      | succ n =>
        rw [takeBytes?]
        -- a character is taken whole or the cut fails within it
        split_ifs with hfits
        · simp only [Option.map_eq_some_iff, ih, List.cons.injEq]
          constructor
          · rintro ⟨_, ⟨hstart, hcount⟩, rfl, rfl⟩
            exact ⟨⟨rfl, hstart⟩, by omega⟩
          · rintro ⟨⟨rfl, hstart⟩, hcount⟩
            exact ⟨front, ⟨hstart, by omega⟩, rfl, rfl⟩
        · refine iff_of_false nofun ?_
          rintro ⟨⟨rfl, -⟩, hcount⟩
          omega

/-- Up to the case of ASCII letters a text starts with another one just when its characters do, also
where the other one's bytes end within a character of the text or beyond its end. -/
theorem startsIgnoringCase_iff {text start : String} :
    startsIgnoringCase text start ↔ asciiLower start <+: asciiLower text := by
  have hcut : startsIgnoringCase text start ↔
      ∃ front, takeBytes? start.utf8ByteSize text.toList = some front ∧
        front.map Char.toLower = asciiLower start := by
    rw [startsIgnoringCase]
    cases takeBytes? start.utf8ByteSize text.toList <;>
      simp [equalIgnoringCase, asciiLower, String.toList_ofList]
  rw [hcut]
  constructor
  · rintro ⟨front, hfront, hsame⟩
    rw [← hsame]
    exact (takeBytes?_eq_some_iff.mp hfront).1.map Char.toLower
  · rintro ⟨rest, hrest⟩
    -- the front has as many characters as the start, and these take as many bytes
    obtain ⟨front, after, htext, hfront, -⟩ := List.map_eq_append_iff.mp hrest.symm
    refine ⟨front, takeBytes?_eq_some_iff.mpr ⟨⟨after, htext.symm⟩, ?_⟩, hfront⟩
    rw [← byteCount_toList]
    exact byteCount_congr hfront

end TrafficPlane.Text
