import Mathlib.Data.List.Forall2
import TrafficPlane.Snapshot.Basic

/-!
# Stages that can fail

Synthesis and checking are chains of stages, each of which may end the chain with a fault. A chain
has a result if every stage has, and a stage that goes over a list has one if it has one for every
item.

## Main results

* `bind_eq_ok_iff`, `bind_eq_error_iff`, `map_eq_ok_iff`, `map_eq_error_iff`,
  `check_bind_eq_ok_iff`: a chain of two stages
* `mapM_eq_ok_iff`, `mapM_eq_ok_iff_of_forall`, `exists_mapM_iff`: a stage over a list that gives a
  result for each item
* `mapM_eq_error_iff`, `exists_of_mapM_eq_error`: a stage over a list that fails at an item
* `exists_optionMapM_iff`, `optionMapM_eq_error_iff`: a stage for what may be absent
* `mapM_congr`: stages over a list that do the same to each of its items
* `checkEach_eq_ok_iff`, `exists_of_checkEach_eq_error`: a stage over a list that only checks
* `firstRepeated?_eq_none_iff`, `two_le_count_of_firstRepeated?`: lists without and with repeated names
-/

namespace TrafficPlane

variable {α β γ ε : Type}

theorem exists_of_isSome {stage : Except ε α} (h : stage.toOption.isSome) : ∃ a, stage = .ok a := by
  cases stage with
  | error fault => exact absurd h nofun
  | ok a => exact ⟨a, rfl⟩

/-- A chain of two stages has a result if the second has one on what the first gives. -/
theorem bind_eq_ok_iff {first : Except ε α} {second : α → Except ε β} {b : β} :
    (first >>= second) = .ok b ↔ ∃ a, first = .ok a ∧ second a = .ok b := by
  cases first <;> simp [bind, Except.bind]

/-- A chain of two stages fails with the fault of one of them. -/
theorem bind_eq_error_iff {first : Except ε α} {second : α → Except ε β} {fault : ε} :
    (first >>= second) = .error fault ↔
      first = .error fault ∨ ∃ a, first = .ok a ∧ second a = .error fault := by
  cases first <;> simp [bind, Except.bind]

/-- What a stage gives may be changed before it is passed on. -/
theorem map_eq_ok_iff {stage : Except ε α} {change : α → β} {b : β} :
    change <$> stage = .ok b ↔ ∃ a, stage = .ok a ∧ change a = b := by
  cases stage <;> simp [Functor.map, Except.map]

/-- What a stage gives may be changed, but not its faults. -/
theorem map_eq_error_iff {stage : Except ε α} {change : α → β} {fault : ε} :
    change <$> stage = .error fault ↔ stage = .error fault := by
  cases stage <;> simp [Functor.map, Except.map]

/-- A check in front of a stage has to pass. -/
theorem check_bind_eq_ok_iff {check : Except ε Unit} {stage : Except ε β} {b : β} :
    (check >>= fun _ => stage) = .ok b ↔ check = .ok () ∧ stage = .ok b := by
  cases check <;> simp [bind, Except.bind]

/-- A stage over a list has a result if it has one for every item, and then it has those. -/
theorem mapM_eq_ok_iff {stage : α → Except ε β} {items : List α} {results : List β} :
    items.mapM stage = .ok results ↔
      List.Forall₂ (fun item result => stage item = .ok result) items results := by
  induction items generalizing results with
  | nil => cases results <;> simp [pure, Except.pure]
  | cons item rest ih =>
    rw [List.mapM_cons, bind_eq_ok_iff]
    constructor
    · rintro ⟨first, hfirst, hrest⟩
      obtain ⟨others, hothers, hresults⟩ := bind_eq_ok_iff.mp hrest
      obtain rfl := Except.ok.inj hresults
      exact .cons hfirst (ih.mp hothers)
    · rintro (_ | ⟨hfirst, hothers⟩)
      exact ⟨_, hfirst, bind_eq_ok_iff.mpr ⟨_, ih.mpr hothers, rfl⟩⟩

theorem exists_mapM_iff {stage : α → Except ε β} {items : List α} :
    (∃ results, items.mapM stage = .ok results) ↔ ∀ item ∈ items, ∃ b, stage item = .ok b := by
  induction items with
  | nil => simp [pure, Except.pure]
  | cons item rest ih =>
    simp only [mapM_eq_ok_iff, List.forall_mem_cons, List.forall₂_cons_left_iff] at ih ⊢
    rw [← ih]
    constructor
    · rintro ⟨_, b, others, hb, hothers, -⟩
      exact ⟨⟨b, hb⟩, others, hothers⟩
    · rintro ⟨⟨b, hb⟩, others, hothers⟩
      exact ⟨_, b, others, hb, hothers, rfl⟩

/-- A stage over a list fails with the fault of the first item that it fails at. -/
theorem mapM_eq_error_iff {stage : α → Except ε β} {items : List α} {fault : ε} :
    items.mapM stage = .error fault ↔ ∃ before item after, items = before ++ item :: after ∧
      (∀ earlier ∈ before, ∃ b, stage earlier = .ok b) ∧ stage item = .error fault := by
  induction items with
  | nil => simp [pure, Except.pure]
  | cons first rest ih =>
    have hlast : ∀ b, (rest.mapM stage >>= fun others => Except.ok (b :: others)) = .error fault ↔
        rest.mapM stage = .error fault := fun b => by
      cases rest.mapM stage <;> simp [bind, Except.bind]
    rw [List.mapM_cons, bind_eq_error_iff]
    constructor
    · rintro (hfirst | ⟨b, hb, hrest⟩)
      · exact ⟨[], first, rest, rfl, nofun, hfirst⟩
      · obtain ⟨before, item, after, rfl, hbefore, hitem⟩ := ih.mp ((hlast b).mp hrest)
        exact ⟨first :: before, item, after, rfl,
          List.forall_mem_cons.mpr ⟨⟨b, hb⟩, hbefore⟩, hitem⟩
    · rintro ⟨_ | ⟨_, before⟩, item, after, heq, hbefore, hitem⟩
      · obtain ⟨rfl, rfl⟩ := List.cons.inj heq
        exact .inl hitem
      · obtain ⟨rfl, rfl⟩ := List.cons.inj heq
        obtain ⟨⟨b, hb⟩, hbefore⟩ := List.forall_mem_cons.mp hbefore
        exact .inr ⟨b, hb, (hlast b).mpr (ih.mpr ⟨before, item, after, rfl, hbefore, hitem⟩)⟩

/-- A stage over a list fails with the fault of one of the items. -/
theorem exists_of_mapM_eq_error {stage : α → Except ε β} {items : List α} {fault : ε}
    (h : items.mapM stage = .error fault) : ∃ item ∈ items, stage item = .error fault := by
  obtain ⟨before, item, after, rfl, -, hitem⟩ := mapM_eq_error_iff.mp h
  exact ⟨item, List.mem_append_right before List.mem_cons_self, hitem⟩

/-- A stage for what may be absent has a result if there is nothing or one for what there is. -/
theorem exists_optionMapM_iff {stage : α → Except ε β} {item : Option α} :
    (∃ result, item.mapM stage = .ok result) ↔ ∀ a, item = some a → ∃ b, stage a = .ok b := by
  cases item with
  | none => exact iff_of_true ⟨none, rfl⟩ nofun
  | some a => simp [map_eq_ok_iff]

theorem optionMapM_eq_error_iff {stage : α → Except ε β} {item : Option α} {fault : ε} :
    item.mapM stage = .error fault ↔ ∃ a, item = some a ∧ stage a = .error fault := by
  cases item with
  | none => simp [pure, Except.pure]
  | some a => simp [map_eq_error_iff]

/-- Stages that do the same to each item of a list do the same to the list. -/
theorem mapM_congr {stage stage' : α → Except ε β} {items : List α}
    (h : ∀ item ∈ items, stage item = stage' item) : items.mapM stage = items.mapM stage' := by
  induction items with
  | nil => rfl
  | cons item rest ih =>
    obtain ⟨hitem, hrest⟩ := List.forall_mem_cons.mp h
    rw [List.mapM_cons, List.mapM_cons, hitem, ih hrest]

/-- Each result of a stage over a list is that of one of its items. -/
theorem exists_of_mem_results {Gives : α → β → Prop} {items : List α} {results : List β}
    (h : List.Forall₂ Gives items results) {result : β} (hresult : result ∈ results) :
    ∃ item ∈ items, Gives item result := by
  induction h with
  | nil => exact absurd hresult List.not_mem_nil
  | cons hfirst _ ih =>
    rcases List.mem_cons.mp hresult with rfl | hrest
    · exact ⟨_, List.mem_cons_self, hfirst⟩
    · obtain ⟨item, hitem, hgives⟩ := ih hrest
      exact ⟨item, List.mem_cons_of_mem _ hitem, hgives⟩

/-- What is drawn from the results is what is drawn from the items, if it is so one by one. -/
theorem map_results_eq {Gives : α → β → Prop} {items : List α} {results : List β}
    (h : List.Forall₂ Gives items results) {ofResult : β → γ} {ofItem : α → γ}
    (hgives : ∀ item result, Gives item result → ofResult result = ofItem item) :
    results.map ofResult = items.map ofItem := by
  rw [← List.forall₂_eq_eq_eq, List.forall₂_map_left_iff, List.forall₂_map_right_iff]
  exact (h.imp hgives).flip

/-- A check of a list passes if every item does. -/
theorem checkEach_eq_ok_iff {check : α → Except ε Unit} {items : List α} :
    checkEach check items = .ok () ↔ ∀ item ∈ items, check item = .ok () := by
  induction items with
  | nil => simp [checkEach]
  | cons item rest ih =>
    rw [checkEach, List.forall_mem_cons, ← ih]
    cases check item <;> simp

/-- A check of a list fails with the fault of one of the items. -/
theorem exists_of_checkEach_eq_error {check : α → Except ε Unit} {items : List α} {fault : ε}
    (h : checkEach check items = .error fault) : ∃ item ∈ items, check item = .error fault := by
  induction items with
  | nil => cases h
  | cons item rest ih =>
    rw [checkEach] at h
    cases hitem : check item with
    | ok _ =>
      rw [hitem] at h
      obtain ⟨failed, hmem, hfailed⟩ := ih h
      exact ⟨failed, List.mem_cons_of_mem _ hmem, hfailed⟩
    | error fault' =>
      rw [hitem] at h
      exact ⟨item, List.mem_cons_self, hitem.trans h⟩

/-- No name is found that came before if all names are distinct and new. -/
theorem firstRepeated?_eq_none_iff {seen names : List String} :
    firstRepeated? seen names = none ↔ names.Nodup ∧ ∀ name ∈ names, name ∉ seen := by
  induction names generalizing seen with
  | nil => simp [firstRepeated?]
  | cons name rest ih =>
    rw [firstRepeated?]
    split_ifs with h
    · have hseen : name ∈ seen := by simpa using h
      simp [hseen]
    · have hseen : name ∉ seen := by simpa using h
      simp only [ih, List.nodup_cons, List.mem_cons, not_or]
      grind

/-- A name that is found to have come before is there twice, or once and among those before. -/
theorem two_le_count_of_firstRepeated? {seen names : List String} {name : String}
    (h : firstRepeated? seen names = some name) :
    name ∈ names ∧ (name ∈ seen ∨ 2 ≤ names.count name) := by
  induction names generalizing seen with
  | nil => cases h
  | cons first rest ih =>
    rw [firstRepeated?] at h
    split_ifs at h with hseen
    · obtain rfl := Option.some.inj h
      exact ⟨List.mem_cons_self, .inl (by simpa using hseen)⟩
    · obtain ⟨hmem, htwice⟩ := ih h
      have hcount : 1 ≤ rest.count name := List.count_pos_iff.mpr hmem
      refine ⟨List.mem_cons_of_mem _ hmem, ?_⟩
      rw [List.mem_cons, or_assoc] at htwice
      rcases htwice with rfl | hbefore | htwice
      · rw [List.count_cons_self]
        exact .inr (Nat.succ_le_succ hcount)
      · exact .inl hbefore
      · exact .inr (Nat.le_trans htwice List.count_le_count_cons)

end TrafficPlane
