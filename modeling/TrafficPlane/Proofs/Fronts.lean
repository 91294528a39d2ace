import TrafficPlane.Proofs.LetterCase
import TrafficPlane.Proofs.Wire
import TrafficPlane.Routing.Matcher

/-!
# Fronts of paths

A path is tested for a front by its bytes: as many of them as the front has are cut off, where the
cut must not fall within a character, and compared with those of the front up to the case of ASCII
letters. Character by character this is the same test. In particular a cut within a character, or
one beyond the end, is no accident of the bytes: there the characters do not agree either.

## Main definitions

* `Text.SameLetter`: characters that are the same up to the case of ASCII letters
* `Text.cutBytes?`: the bytes in front of a boundary between characters
* `Text.bytesStartIgnoringCase`: the test for a front on bytes

## Main results

* `Text.utf8EncodeChar_cases`: what the bytes of a character look like
* `Text.cutBytes?_utf8Bytes`: bytes are cut as characters are
* `Text.startsIgnoringCase_eq_bytes`: the test on characters is the one on bytes
* `PathMatcher.accepts_of_caseSensitive`: what matches as written matches in any case
* `PathMatcher.accepts_up_to_case`: which paths are accepted where case does not count
-/

namespace TrafficPlane

namespace Text

open Wire

/-! ### Letters in both cases -/

/-- The characters are the same, or they are a capital letter of ASCII and its small letter. -/
def SameLetter (c d : Char) : Prop :=
  c = d ∨ ((65 ≤ c.toNat ∧ c.toNat ≤ 90) ∧ d.toNat = c.toNat + 32) ∨
    ((65 ≤ d.toNat ∧ d.toNat ≤ 90) ∧ c.toNat = d.toNat + 32)

theorem toNat_toLower (c : Char) :
    c.toLower.toNat = if 65 ≤ c.toNat ∧ c.toNat ≤ 90 then c.toNat + 32 else c.toNat := by
  have hcapital : (c.val ≥ 'A'.val ∧ c.val ≤ 'Z'.val) ↔ 65 ≤ c.toNat ∧ c.toNat ≤ 90 :=
    and_congr UInt32.le_iff_toNat_le UInt32.le_iff_toNat_le
  split_ifs with hplace
  · have hlower : c.toLower = ⟨c.val + 32, _⟩ := dif_pos (hcapital.mpr hplace)
    rw [hlower]
    change (c.val + 32).toNat = c.val.toNat + 32
    rw [UInt32.toNat_add]
    exact Nat.mod_eq_of_lt (by change c.toNat + 32 < _; omega)
  · exact congrArg Char.toNat (dif_neg (mt hcapital.mp hplace))

theorem toLower_eq_toLower_iff {c d : Char} : c.toLower = d.toLower ↔ SameLetter c d := by
  rw [← Char.toNat_inj, toNat_toLower, toNat_toLower, SameLetter, ← Char.toNat_inj]
  split_ifs <;> omega

/-- A text starts with another one up to case if the characters in front are the same letters. -/
theorem asciiLower_prefix_iff {text start : String} :
    asciiLower start <+: asciiLower text ↔
      ∃ front rest, text.toList = front ++ rest ∧ List.Forall₂ SameLetter start.toList front := by
  have hsame : ∀ {front : List Char}, List.Forall₂ SameLetter start.toList front ↔
      front.map Char.toLower = asciiLower start := by
    intro front
    rw [asciiLower, eq_comm, ← List.forall₂_eq_eq_eq, List.forall₂_map_left_iff,
      List.forall₂_map_right_iff]
    simp only [toLower_eq_toLower_iff]
  simp only [hsame]
  constructor
  · rintro ⟨rest, hrest⟩
    obtain ⟨front, after, htext, hfront, -⟩ := List.map_eq_append_iff.mp hrest.symm
    exact ⟨front, after, htext, hfront⟩
  · rintro ⟨front, rest, htext, hfront⟩
    rw [← hfront, asciiLower, htext, List.map_append]
    exact List.prefix_append _ _

/-! ### The bytes of characters -/

/-- The bytes of characters in UTF-8. -/
def utf8Bytes (cs : List Char) : Bytes := cs.flatMap String.utf8EncodeChar

theorem textBytes_eq_utf8Bytes (s : String) : textBytes s = utf8Bytes s.toList := by
  conv_lhs => rw [← String.ofList_toList (s := s)]
  rw [textBytes, String.toUTF8_eq_toByteArray, String.toByteArray_ofList, List.utf8Encode,
    List.data_toByteArray, utf8Bytes]

/-- A character of ASCII is a byte of its own. The bytes of any other character lie above those of
ASCII, and only the first one is one that can begin a character. -/
theorem utf8EncodeChar_cases (c : Char) :
    (c.toNat < 128 ∧ String.utf8EncodeChar c = [.ofNat c.toNat]) ∨
      (128 ≤ c.toNat ∧ ∃ first rest, String.utf8EncodeChar c = first :: rest ∧ 192 ≤ first.toNat ∧
        ∀ b ∈ rest, 128 ≤ b.toNat ∧ b.toNat < 192) := by
  have hof : ∀ n < 256, (UInt8.ofNat n).toNat = n := fun n hn => by
    rw [UInt8.toNat_ofNat', Nat.mod_eq_of_lt hn]
  have hlater : ∀ n, 128 ≤ (UInt8.ofNat (n % 64 + 128)).toNat ∧
      (UInt8.ofNat (n % 64 + 128)).toNat < 192 := fun n => by
    rw [hof _ (by omega)]
    omega
  change (c.val.toNat < 128 ∧ _) ∨ (128 ≤ c.val.toNat ∧ _)
  simp only [String.utf8EncodeChar]
  split_ifs with hone htwo hthree
  · exact .inl ⟨by omega, rfl⟩
  -- the first byte says how many more there are, and starts with more than one set bit
  all_goals
    refine .inr ⟨by omega, _, _, rfl, ?_, by simp only [List.forall_mem_cons, hlater]; simp⟩
    rw [hof _ (by omega)]
    omega

/-- The byte as that of a small letter, if it is that of a capital letter of ASCII. -/
def lowerByte (b : UInt8) : UInt8 := if 65 ≤ b ∧ b ≤ 90 then b + 32 else b

/-- The bytes of a small letter are the small ones of the letter's bytes. -/
theorem map_lowerByte_utf8EncodeChar (c : Char) :
    (String.utf8EncodeChar c).map lowerByte = String.utf8EncodeChar c.toLower := by
  rcases utf8EncodeChar_cases c with ⟨hc, -⟩ | ⟨hc, first, rest, heq, hfirst, hrest⟩
  · have hall : ∀ n < 128, (String.utf8EncodeChar (.ofNat n)).map lowerByte =
        String.utf8EncodeChar (Char.ofNat n).toLower := by decide +kernel
    rw [← Char.ofNat_toNat c]
    exact hall c.toNat hc
  · have hwide : ∀ b : UInt8, 128 ≤ b.toNat → lowerByte b = b := fun b hb =>
      if_neg fun h => by
        have hle := UInt8.le_iff_toNat_le.mp h.2
        change b.toNat ≤ 90 at hle
        omega
    have hsame : c.toLower = c := by
      rw [← Char.toNat_inj, toNat_toLower, if_neg (by omega)]
    have hbytes : ∀ b ∈ first :: rest, lowerByte b = id b := by
      intro b hb
      rcases List.mem_cons.mp hb with rfl | hb
      · exact hwide b (by omega)
      · exact hwide b (hrest b hb).1
    rw [hsame, heq, List.map_congr_left hbytes, List.map_id]

theorem map_lowerByte_utf8Bytes (cs : List Char) :
    (utf8Bytes cs).map lowerByte = utf8Bytes (cs.map Char.toLower) := by
  simp only [utf8Bytes, List.map_flatMap, List.flatMap_map, map_lowerByte_utf8EncodeChar]

theorem utf8Bytes_injective : Function.Injective utf8Bytes := by
  intro cs ds h
  rw [← String.toList_ofList (l := cs), ← String.toList_ofList (l := ds), ← textBytes_eq_utf8Bytes,
    ← textBytes_eq_utf8Bytes] at h
  exact String.ofList_injective (textBytes_injective h)

/-- Texts are equal up to the case of ASCII letters if their bytes are. -/
theorem equalIgnoringCase_iff_bytes {s t : String} :
    equalIgnoringCase s t ↔ (textBytes s).map lowerByte = (textBytes t).map lowerByte := by
  rw [textBytes_eq_utf8Bytes, textBytes_eq_utf8Bytes, map_lowerByte_utf8Bytes,
    map_lowerByte_utf8Bytes, utf8Bytes_injective.eq_iff, equalIgnoringCase, beq_iff_eq]
  rfl

/-! ### Cuts -/

/-- A character begins with this byte, which does not continue one. -/
def beginsCharacter (b : UInt8) : Bool := b < 128 || 192 ≤ b

/-- After so many bytes a character begins, or the bytes end. -/
def isBoundary (n : Nat) (bytes : Bytes) : Bool :=
  match bytes[n]? with
  | some b => beginsCharacter b
  | none => n == bytes.length

/-- The bytes in front of a boundary between characters. -/
def cutBytes? (n : Nat) (bytes : Bytes) : Option Bytes :=
  if isBoundary n bytes then some (bytes.take n) else none

/-- The test for a front on bytes: those cut off are the bytes of the front up to the case of ASCII
letters. -/
def bytesStartIgnoringCase (text start : Bytes) : Bool :=
  match cutBytes? start.length text with
  | some front => front.map lowerByte == start.map lowerByte
  | none => false

theorem beginsCharacter_iff {b : UInt8} :
    beginsCharacter b ↔ b.toNat < 128 ∨ 192 ≤ b.toNat := by
  rw [beginsCharacter, Bool.or_eq_true, decide_eq_true_iff, decide_eq_true_iff,
    UInt8.lt_iff_toNat_lt, UInt8.le_iff_toNat_le]
  rfl

/-- Of the bytes of a character, the first one and no other begins a character. -/
theorem beginsCharacter_utf8EncodeChar {c : Char} {n : Nat} (hn : n < c.utf8Size) :
    ∃ b, (String.utf8EncodeChar c)[n]? = some b ∧ (beginsCharacter b ↔ n = 0) := by
  rw [← String.length_utf8EncodeChar] at hn
  refine ⟨_, List.getElem?_eq_getElem hn, ?_⟩
  simp only [beginsCharacter_iff]
  rcases utf8EncodeChar_cases c with ⟨hc, heq⟩ | ⟨hc, first, rest, heq, hfirst, hrest⟩
  · have hzero : n = 0 := by simpa [heq] using hn
    subst hzero
    simp [heq, Nat.mod_eq_of_lt (by omega : c.toNat < 256), hc]
  · cases n with
    | zero => simpa [heq] using Or.inr hfirst
    | succ n =>
      have hrange : n < rest.length := by simpa [heq] using hn
      have hlater := hrest rest[n] (List.getElem_mem hrange)
      simp only [heq, List.getElem_cons_succ]
      omega

theorem cutBytes?_append {n : Nat} {block bytes : Bytes} (h : block.length ≤ n) :
    cutBytes? n (block ++ bytes) = (cutBytes? (n - block.length) bytes).map (block ++ ·) := by
  have hboundary : isBoundary n (block ++ bytes) = isBoundary (n - block.length) bytes := by
    have hend : (n == (block ++ bytes).length) = (n - block.length == bytes.length) := by
      rw [List.length_append, Bool.eq_iff_iff, beq_iff_eq, beq_iff_eq]
      omega
    rw [isBoundary, isBoundary, List.getElem?_append_right h, hend]
  rw [cutBytes?, cutBytes?, hboundary, List.take_append, List.take_of_length_le h]
  split_ifs <;> rfl

/-- Bytes are cut where characters are, and nowhere else. -/
theorem cutBytes?_utf8Bytes (n : Nat) (cs : List Char) :
    cutBytes? n (utf8Bytes cs) = (takeBytes? n cs).map utf8Bytes := by
  induction cs generalizing n with
  | nil => cases n <;> rfl
  | cons c rest ih =>
    have hbytes : utf8Bytes (c :: rest) = String.utf8EncodeChar c ++ utf8Bytes rest :=
      List.flatMap_cons
    have hlength := String.length_utf8EncodeChar c
    rcases Nat.lt_or_ge n c.utf8Size with hn | hn
    -- a cut in front of the character or within it
    · obtain ⟨b, hb, hbegins⟩ := beginsCharacter_utf8EncodeChar hn
      rw [cutBytes?, isBoundary, hbytes, List.getElem?_append_left (by omega), hb]
      cases n with
      | zero => simp [hbegins, takeBytes?, utf8Bytes]
      | succ n => simp [hbegins, takeBytes?, Nat.not_le.mpr hn]
    · obtain ⟨n, rfl⟩ : ∃ m, n = m + 1 := ⟨n - 1, by have := c.utf8Size_pos; omega⟩
      rw [hbytes, cutBytes?_append (by omega), hlength, ih, takeBytes?, if_pos hn, Option.map_map,
        Option.map_map]
      rfl

/-- The test for a front on characters is the one on their bytes. -/
theorem startsIgnoringCase_eq_bytes (text start : String) :
    startsIgnoringCase text start =
      bytesStartIgnoringCase (textBytes text) (textBytes start) := by
  have hlength : (textBytes start).length = start.utf8ByteSize := rfl
  rw [bytesStartIgnoringCase, hlength, textBytes_eq_utf8Bytes text, cutBytes?_utf8Bytes,
    startsIgnoringCase]
  cases takeBytes? start.utf8ByteSize text.toList with
  | none => rfl
  | some front =>
    rw [Option.map_some, Bool.eq_iff_iff, equalIgnoringCase_iff_bytes, beq_iff_eq,
      textBytes_eq_utf8Bytes (.ofList front), String.toList_ofList]

end Text

namespace PathMatcher

open Text Wire

/-- A matcher that takes a path as it is written takes it in any case. -/
theorem accepts_of_caseSensitive {matcher : PathMatcher} {path : String}
    (h : matcher.accepts path true) : matcher.accepts path false := by
  cases matcher with
  | leading text =>
    have hfront : text.toList <+: path.toList := List.isPrefixOf_iff_prefix.mp h
    exact startsIgnoringCase_iff.mpr (hfront.map Char.toLower)
  | exact text =>
    obtain rfl : path = text := beq_iff_eq.mp h
    exact beq_iff_eq.mpr rfl
  | regex compiled => exact h

/-- Where case does not count, a leading part is looked for on bytes, which gives what the
characters say: the path with its ASCII letters in lower case starts with the part so written, so
that letter by letter the part is in front of the path. Where the part's last byte falls within a
character of the path or beyond its end, the characters do not agree either. Every path that a
matcher takes as it is written is also taken in any case. -/
theorem accepts_up_to_case (text path : String) :
    ((leading text).accepts path false ↔ asciiLower text <+: asciiLower path) ∧
    ((leading text).accepts path false ↔
      ∃ front rest, path.toList = front ++ rest ∧ List.Forall₂ SameLetter text.toList front) ∧
    (leading text).accepts path false =
      bytesStartIgnoringCase (textBytes path) (textBytes text) ∧
    (isBoundary (textBytes text).length (textBytes path) = false →
      (leading text).accepts path false = false ∧ ¬ asciiLower text <+: asciiLower path) ∧
    ∀ matcher : PathMatcher, matcher.accepts path true → matcher.accepts path false := by
  have hfront : (leading text).accepts path false ↔ asciiLower text <+: asciiLower path :=
    startsIgnoringCase_iff
  have hbytes : (leading text).accepts path false =
      bytesStartIgnoringCase (textBytes path) (textBytes text) :=
    startsIgnoringCase_eq_bytes path text
  refine ⟨hfront, hfront.trans asciiLower_prefix_iff, hbytes, fun hwithin => ?_,
    fun _ => accepts_of_caseSensitive⟩
  have hrefused : (leading text).accepts path false = false := by
    rw [hbytes, bytesStartIgnoringCase, cutBytes?, hwithin]
    rfl
  exact ⟨hrefused, fun h => Bool.false_ne_true (hrefused.symm.trans (hfront.mpr h))⟩

/-- The six bytes of a leading part may end within the last character of a path, which is then not
taken. -/
theorem accepts_up_to_case_within_character :
    (leading "/api/x").accepts "/API/é" false = false ∧
      (leading "/api/").accepts "/API/é" false ∧ (exact "/API/é").accepts "/API/é" false :=
  ⟨((accepts_up_to_case "/api/x" "/API/é").2.2.2.1 (by decide +kernel)).1,
    (accepts_up_to_case "/api/" "/API/é").1.mpr (by decide +kernel),
    (accepts_up_to_case "" "/API/é").2.2.2.2 (exact "/API/é") (by decide +kernel)⟩

end PathMatcher

end TrafficPlane
