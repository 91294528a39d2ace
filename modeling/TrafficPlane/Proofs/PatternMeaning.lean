import TrafficPlane.Regex.Pattern
import Mathlib.Data.Nat.Bitwise

/-!
# The parts of a text that a pattern takes

Patterns are evaluated on sets of places, all starting places at once. What they mean is said here
for one part of a text at a time, from the place where it starts to the place where it ends.
Evaluation leaves rounds of a repetition out once they cannot reach anything new, since no pattern
leads back.

## Main definitions

* `Rounds`: a relation applied a number of times
* `Pattern.Spans`: the pattern takes the part of the text between two places

## Main results

* `Rounds.succ_iff`: rounds beyond the number of places lead to the same places
* `Pattern.tracks_ends`: evaluation reaches the ends of the parts that a pattern takes
* `Pattern.occursIn_iff`: a pattern occurs in a text if it takes some part of it
-/

namespace TrafficPlane.Regex

/-- A number of rounds of a relation between places. -/
def Rounds (R : Nat → Nat → Prop) : Nat → Nat → Nat → Prop
  | 0, i, j => i = j
  | n + 1, i, j => ∃ k, R i k ∧ Rounds R n k j

/-- The assertion holds at a place, between the character before it and the one after it. -/
def Assertion.HoldsAt (assertion : Assertion) (text : List Char) (i : Nat) : Prop :=
  assertion.holds (if i = 0 then none else text[i - 1]?) text[i]?

/-- The pattern takes the part of the text between two places. A largest number of rounds that is
below the smallest one counts as that. -/
def Pattern.Spans (text : List Char) : Pattern Atom → Nat → Nat → Prop
  | .empty, i, j => i = j
  | .atom (.char cls), i, j => i + 1 = j ∧ ∃ c, text[i]? = some c ∧ cls.has c.toNat
  | .atom (.look assertion), i, j => i = j ∧ assertion.HoldsAt text i
  | .cat p q, i, j => ∃ k, p.Spans text i k ∧ q.Spans text k j
  | .alt p q, i, j => p.Spans text i j ∨ q.Spans text i j
  | .repeated p least most, i, j =>
    ∃ n, least ≤ n ∧ (∀ m, most = some m → n ≤ max least m) ∧ Rounds (p.Spans text) n i j

/-! ### Rounds -/

/-- The relation never leads back, nor beyond the end of a text of this size. -/
def LeadsOn (size : Nat) (R : Nat → Nat → Prop) : Prop :=
  ∀ i j, i ≤ size → R i j → i ≤ j ∧ j ≤ size

namespace Rounds

variable {size m n i j : Nat} {R : Nat → Nat → Prop}

theorem leadsOn (h : LeadsOn size R) : LeadsOn size (Rounds R n) := by
  intro i j hi hrounds
  induction n generalizing i with
  | zero => exact hrounds ▸ ⟨Nat.le_refl i, hi⟩
  | succ n ih =>
    obtain ⟨k, hfirst, hrest⟩ := hrounds
    obtain ⟨hik, hk⟩ := h i k hi hfirst
    obtain ⟨hkj, hj⟩ := ih k hk hrest
    exact ⟨hik.trans hkj, hj⟩

theorem add_iff : Rounds R (m + n) i j ↔ ∃ k, Rounds R m i k ∧ Rounds R n k j := by
  induction m generalizing i with
  | zero => simp [Rounds]
  | succ m ih =>
    rw [Nat.succ_add]
    simp only [Rounds, ih]
    constructor
    · rintro ⟨l, hfirst, k, hm, hn⟩
      exact ⟨k, ⟨l, hfirst, hm⟩, hn⟩
    · rintro ⟨k, ⟨l, hfirst, hm⟩, hn⟩
      exact ⟨l, hfirst, k, hm, hn⟩

/-- If there are more rounds than places to pass, one of the rounds stays where it is. -/
theorem exists_loop (h : LeadsOn size R) (hi : i ≤ size) (hrounds : Rounds R n i j)
    (hmany : j < i + n) : ∃ a b k, a + 1 + b = n ∧ Rounds R a i k ∧ R k k ∧ Rounds R b k j := by
  induction n generalizing i with
  | zero =>
    have hsame : i = j := hrounds
    omega
  | succ n ih =>
    obtain ⟨k, hfirst, hrest⟩ := hrounds
    obtain ⟨hik, hk⟩ := h i k hi hfirst
    -- the first round stays, or it leaves one place less for the others to pass
    rcases Nat.eq_or_lt_of_le hik with rfl | hlt
    · exact ⟨0, n, i, by omega, rfl, hfirst, hrest⟩
    · obtain ⟨a, b, l, hn, ha, hloop, hb⟩ := ih hk hrest (by omega)
      exact ⟨a + 1, b, l, by omega, ⟨k, hfirst, ha⟩, hloop, hb⟩

/-- A round that stays where it is may be gone once more, or once less. -/
theorem succ_iff (h : LeadsOn size R) (hi : i ≤ size) (hmany : size < n) :
    Rounds R (n + 1) i j ↔ Rounds R n i j := by
  constructor
  · intro hrounds
    obtain ⟨-, hj⟩ := leadsOn h i j hi hrounds
    obtain ⟨a, b, k, hn, ha, -, hb⟩ := exists_loop h hi hrounds (by omega)
    obtain rfl : n = a + b := by omega
    exact add_iff.mpr ⟨k, ha, hb⟩
  · intro hrounds
    obtain ⟨-, hj⟩ := leadsOn h i j hi hrounds
    obtain ⟨a, b, k, hn, ha, hloop, hb⟩ := exists_loop h hi hrounds (by omega)
    have hlonger : n + 1 = a + (b + 1 + 1) := by omega
    rw [hlonger]
    exact add_iff.mpr ⟨k, ha, k, hloop, k, hloop, hb⟩

theorem min_iff (h : LeadsOn size R) (hi : i ≤ size) :
    Rounds R (min n (size + 1)) i j ↔ Rounds R n i j := by
  rcases Nat.le_total n (size + 1) with hle | hle
  · rw [Nat.min_eq_left hle]
  · rw [Nat.min_eq_right hle]
    induction n, hle using Nat.le_induction with
    | base => rfl
    | succ n hle ih => rw [ih, succ_iff h hi (by omega)]

end Rounds

/-! ### Sets of places -/

namespace PlaceSet

/-- All places of the set are places of a text of this size. -/
def Within (size : Nat) (s : PlaceSet) : Prop :=
  ∀ i, s.testBit i → i ≤ size

theorem testBit_ofBools {bools : List Bool} {i : Nat} :
    (ofBools bools).testBit i ↔ bools[i]? = some true := by
  induction bools generalizing i with
  | nil => simp [ofBools]
  | cons b rest ih =>
    rw [ofBools]
    cases i with
    | zero => cases b <;> simp
    | succ i =>
      have hhalf : ∀ n : Nat, (2 * n + if b then 1 else 0) / 2 = n := by
        intro n
        split_ifs <;> omega
      rw [Nat.testBit_succ, hhalf (ofBools rest), ih, List.getElem?_cons_succ]

theorem testBit_minus {a b : PlaceSet} {i : Nat} :
    (minus a b).testBit i ↔ a.testBit i ∧ ¬ b.testBit i := by
  rw [minus, Nat.testBit_xor, Nat.testBit_or]
  cases a.testBit i <;> cases b.testBit i <;> simp

theorem eq_zero_iff {s : PlaceSet} : s = 0 ↔ ∀ i, ¬ s.testBit i := by
  constructor
  · rintro rfl i
    simp
  · intro h
    refine Nat.eq_of_testBit_eq fun i => ?_
    simpa using h i

end PlaceSet

open PlaceSet

/-- The function takes a set of places to those that the relation leads to from it. -/
structure Tracks (size : Nat) (R : Nat → Nat → Prop) (f : PlaceSet → PlaceSet) : Prop where
  leadsOn : LeadsOn size R
  mem : ∀ {s}, Within size s → ∀ {j}, (f s).testBit j ↔ ∃ i, s.testBit i ∧ R i j

namespace Tracks

variable {size : Nat} {R : Nat → Nat → Prop} {f : PlaceSet → PlaceSet}

theorem within (h : Tracks size R f) {s : PlaceSet} (hs : Within size s) : Within size (f s) := by
  intro j hj
  obtain ⟨i, hi, hR⟩ := (h.mem hs).mp hj
  exact (h.leadsOn i j (hs i hi) hR).2

theorem iterate (h : Tracks size R f) (n : Nat) :
    Tracks size (Rounds R n) (Pattern.iterate f n) where
  leadsOn := Rounds.leadsOn h.leadsOn
  mem := by
    intro s hs j
    induction n generalizing s with
    | zero => simp [Pattern.iterate, Rounds]
    | succ n ih =>
      rw [Pattern.iterate]
      split_ifs with hzero
      · subst hzero
        simp
      · simp only [ih (h.within hs), h.mem hs, Rounds]
        constructor
        · rintro ⟨k, ⟨i, hi, hfirst⟩, hrest⟩
          exact ⟨i, hi, k, hfirst, hrest⟩
        · rintro ⟨i, hi, k, hfirst, hrest⟩
          exact ⟨k, ⟨i, hi, hfirst⟩, hrest⟩

/-- Nothing is reached from a set that one round does not leave. -/
theorem rounds_closed {s : PlaceSet} (hclosed : ∀ i j, s.testBit i → R i j → s.testBit j)
    {n i j : Nat} (hi : s.testBit i) (hrounds : Rounds R n i j) : s.testBit j := by
  induction n generalizing i with
  | zero => exact hrounds ▸ hi
  | succ n ih =>
    obtain ⟨k, hfirst, hrest⟩ := hrounds
    exact ih (hclosed i k hi hfirst) hrest

/-- What is spread over in at most `n` rounds, where one round leaves what has been seen only from
its edge. -/
theorem mem_spread (h : Tracks size R f) {n : Nat} {seen edge : PlaceSet} (hseen : Within size seen)
    (hedge : ∀ i, edge.testBit i → seen.testBit i)
    (hinner : ∀ i j, seen.testBit i → R i j → seen.testBit j ∨ edge.testBit i) {j : Nat} :
    (Pattern.spread f n seen edge).testBit j ↔ ∃ k ≤ n, ∃ i, seen.testBit i ∧ Rounds R k i j := by
  induction n generalizing seen edge with
  | zero => simp [Pattern.spread, Rounds]
  | succ n ih =>
    have hfresh : ∀ j, (minus (f edge) seen).testBit j ↔
        (∃ i, edge.testBit i ∧ R i j) ∧ ¬ seen.testBit j := fun j => by
      rw [testBit_minus, h.mem fun i hi => hseen i (hedge i hi)]
    -- one round leads from what has been seen to what has been seen or is fresh
    have hround : ∀ i j, seen.testBit i → R i j →
        seen.testBit j ∨ (minus (f edge) seen).testBit j := by
      intro i j hi hR
      rw [hfresh]
      rcases hinner i j hi hR with hj | hi'
      · exact .inl hj
      · exact (Classical.em _).imp_right fun hj => ⟨⟨i, hi', hR⟩, hj⟩
    rw [Pattern.spread]
    split_ifs with hzero
    · -- nothing fresh was reached, so nothing ever will be
      have hclosed : ∀ i j, seen.testBit i → R i j → seen.testBit j := fun i j hi hR =>
        (hround i j hi hR).resolve_right (eq_zero_iff.mp hzero j)
      constructor
      · exact fun hj => ⟨0, Nat.zero_le _, j, hj, rfl⟩
      · rintro ⟨k, -, i, hi, hrounds⟩
        exact rounds_closed hclosed hi hrounds
    · have hunion : ∀ j, (seen ||| minus (f edge) seen).testBit j ↔
          seen.testBit j ∨ (minus (f edge) seen).testBit j := fun j => by
        rw [Nat.testBit_or, Bool.or_eq_true]
      rw [ih]
      · constructor
        · rintro ⟨k, hk, i, hi, hrounds⟩
          rcases (hunion i).mp hi with hi | hi
          · exact ⟨k, by omega, i, hi, hrounds⟩
          · obtain ⟨⟨e, he, hR⟩, -⟩ := (hfresh i).mp hi
            exact ⟨k + 1, by omega, e, hedge e he, i, hR, hrounds⟩
        · rintro ⟨_ | k, hk, i, hi, hrounds⟩
          · exact ⟨0, Nat.zero_le n, i, (hunion i).mpr (.inl hi), hrounds⟩
          · obtain ⟨l, hfirst, hrest⟩ := hrounds
            exact ⟨k, by omega, l, (hunion l).mpr (hround i l hi hfirst), hrest⟩
      · intro j hj
        rcases (hunion j).mp hj with hj | hj
        · exact hseen j hj
        · obtain ⟨⟨i, hi, hR⟩, -⟩ := (hfresh j).mp hj
          exact (h.leadsOn i j (hseen i (hedge i hi)) hR).2
      · exact fun i hi => (hunion i).mpr (.inr hi)
      · intro i j hi hR
        rcases (hunion i).mp hi with hi | hi
        · exact .inl ((hunion j).mpr (hround i j hi hR))
        · exact .inr hi

end Tracks

/-! ### Patterns -/

variable {text : List Char}

theorem getElem?_neighbours {before : Option Char} {i : Nat} (hi : i ≤ text.length) :
    (neighbours before text)[i]? = some (if i = 0 then before else text[i - 1]?, text[i]?) := by
  induction text generalizing before i with
  | nil =>
    obtain rfl : i = 0 := Nat.le_zero.mp hi
    rfl
  | cons c rest ih =>
    cases i with
    | zero => rfl
    | succ i =>
      rw [neighbours, List.getElem?_cons_succ, ih (Nat.le_of_succ_le_succ hi)]
      cases i <;> rfl

namespace Pattern

theorem leadsOn_spans (p : Pattern Atom) : LeadsOn text.length (p.Spans text) := by
  induction p with
  | empty => exact fun i j hi hspans => hspans ▸ ⟨Nat.le_refl i, hi⟩
  | atom atom =>
    intro i j hi hspans
    cases atom with
    | char cls =>
      obtain ⟨rfl, c, hc, -⟩ := hspans
      obtain ⟨hlt, -⟩ := List.getElem?_eq_some_iff.mp hc
      exact ⟨Nat.le_succ i, hlt⟩
    | look assertion =>
      obtain ⟨rfl, -⟩ := hspans
      exact ⟨Nat.le_refl i, hi⟩
  | cat p q ihp ihq =>
    rintro i j hi ⟨k, hp, hq⟩
    obtain ⟨hik, hk⟩ := ihp i k hi hp
    obtain ⟨hkj, hj⟩ := ihq k j hk hq
    exact ⟨hik.trans hkj, hj⟩
  | alt p q ihp ihq =>
    rintro i j hi (hp | hq)
    · exact ihp i j hi hp
    · exact ihq i j hi hq
  | repeated p least most ih =>
    rintro i j hi ⟨n, -, -, hrounds⟩
    exact Rounds.leadsOn ih i j hi hrounds

/-- An atom goes over the character after a place, or stays where its assertion holds. -/
theorem tracks_atom (atom : Atom) :
    Tracks text.length ((Pattern.atom atom).Spans text) (atom.resolve text).apply where
  leadsOn := leadsOn_spans _
  mem := by
    intro s hs j
    cases atom with
    | char cls =>
      simp only [Atom.resolve, Step.apply, Nat.testBit_shiftLeft, Nat.testBit_and, Spans,
        Bool.and_eq_true, decide_eq_true_eq, testBit_ofBools, List.getElem?_map,
        Option.map_eq_some_iff]
      constructor
      · rintro ⟨hj, hi, c, hc, hcls⟩
        exact ⟨j - 1, hi, by omega, c, hc, hcls⟩
      · rintro ⟨i, hi, rfl, c, hc, hcls⟩
        exact ⟨Nat.le_add_left 1 i, hi, c, hc, hcls⟩
    | look assertion =>
      simp only [Atom.resolve, Step.apply, Nat.testBit_and, Spans, Bool.and_eq_true,
        testBit_ofBools, List.getElem?_map, Option.map_eq_some_iff]
      constructor
      · rintro ⟨hj, sides, hsides, hholds⟩
        rw [getElem?_neighbours (hs j hj), Option.some.injEq] at hsides
        subst hsides
        exact ⟨j, hj, rfl, hholds⟩
      · rintro ⟨i, hi, rfl, hholds⟩
        exact ⟨hi, _, getElem?_neighbours (hs i hi), hholds⟩

theorem tracks_repeated {p : Pattern Atom} {f : PlaceSet → PlaceSet} {least : Nat}
    {most : Option Nat} (h : Tracks text.length (p.Spans text) f) :
    Tracks text.length ((Pattern.repeated p least most).Spans text) fun s =>
      let after := iterate f (min least (text.length + 1)) s
      let rounds := match most with
        | some most => min (most - least) (text.length + 1)
        | none => text.length + 1
      spread f rounds after after where
  leadsOn := leadsOn_spans _
  mem := by
    intro s hs j
    set rounds : Nat := match most with
      | some most => min (most - least) (text.length + 1)
      | none => text.length + 1 with hrounds
    have hafter := h.iterate (min least (text.length + 1))
    have hinner : ∀ i k, (iterate f (min least (text.length + 1)) s).testBit i → p.Spans text i k →
        (iterate f (min least (text.length + 1)) s).testBit k ∨
          (iterate f (min least (text.length + 1)) s).testBit i := fun _ _ hi _ => .inr hi
    -- first the rounds that have to be gone, then any number of those that may be
    rw [h.mem_spread (hafter.within hs) (fun _ hi => hi) hinner]
    simp only [hafter.mem hs]
    constructor
    · rintro ⟨n, hn, k, ⟨i, hi, hleast⟩, hmore⟩
      refine ⟨i, hi, least + n, Nat.le_add_right least n, ?_, ?_⟩
      · rintro m rfl
        simp only at hrounds
        omega
      · exact Rounds.add_iff.mpr ⟨k, (Rounds.min_iff h.leadsOn (hs i hi)).mp hleast, hmore⟩
    · rintro ⟨i, hi, n, hleast, hmost, hspans⟩
      obtain ⟨n, rfl⟩ := Nat.exists_eq_add_of_le hleast
      obtain ⟨k, hfirst, hmore⟩ := Rounds.add_iff.mp hspans
      obtain ⟨-, hk⟩ := Rounds.leadsOn h.leadsOn i k (hs i hi) hfirst
      refine ⟨min n (text.length + 1), ?_, k, ⟨i, hi, ?_⟩, ?_⟩
      · cases most with
        | none => exact Nat.min_le_right _ _
        | some m =>
          have hle := hmost m rfl
          simp only at hrounds
          omega
      · exact (Rounds.min_iff h.leadsOn (hs i hi)).mpr hfirst
      · exact (Rounds.min_iff h.leadsOn hk).mpr hmore

/-- Evaluation takes the places where matches may start to those where they may end. -/
theorem tracks_ends (p : Pattern Atom) :
    Tracks text.length (p.Spans text) ((p.map (Atom.resolve text)).ends text.length) := by
  induction p with
  | empty => exact ⟨leadsOn_spans _, by simp [map, ends, Spans]⟩
  | atom atom => exact tracks_atom atom
  | cat p q ihp ihq =>
    refine ⟨leadsOn_spans _, fun {s} hs {j} => ?_⟩
    simp only [map, ends, ihq.mem (ihp.within hs), ihp.mem hs, Spans]
    constructor
    · rintro ⟨k, ⟨i, hi, hp⟩, hq⟩
      exact ⟨i, hi, k, hp, hq⟩
    · rintro ⟨i, hi, k, hp, hq⟩
      exact ⟨k, ⟨i, hi, hp⟩, hq⟩
  | alt p q ihp ihq =>
    refine ⟨leadsOn_spans _, fun {s} hs {j} => ?_⟩
    simp only [map, ends, Nat.testBit_or, Bool.or_eq_true, ihp.mem hs, ihq.mem hs, Spans]
    rw [← exists_or]
    simp only [and_or_left]
  | repeated p least most ih => exact tracks_repeated ih

/-- A pattern occurs in a text if it takes the part between two of its places. -/
theorem occursIn_iff {p : Pattern Atom} :
    p.occursIn text ↔ ∃ i ≤ text.length, ∃ j, p.Spans text i j := by
  have hall : ∀ i, (Nat.pow 2 (text.length + 1) - 1).testBit i ↔ i ≤ text.length := fun i => by
    rw [Nat.pow_eq, Nat.testBit_two_pow_sub_one, decide_eq_true_eq, Nat.lt_succ_iff]
  have hwithin : Within text.length (Nat.pow 2 (text.length + 1) - 1) := fun i => (hall i).mp
  rw [occursIn, bne_iff_ne, Ne, eq_zero_iff]
  simp only [(tracks_ends p).mem hwithin, hall, not_forall, not_not]
  exact exists_comm.trans (by simp only [exists_and_left])

end Pattern

end TrafficPlane.Regex
