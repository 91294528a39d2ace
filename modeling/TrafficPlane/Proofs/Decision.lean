import TrafficPlane.Pass.Basic
import TrafficPlane.Proofs.KeyMap

/-!
# Decisions on specs

A pass decides each listed spec from three things only: the new bundle of the spec or the fault in
its place, the bundle that the spec had before, and the listeners that specs before it have taken.

## Main definitions

* `Decision`: what becomes of a listed spec
* `Decision.make`: the decision on a spec
* `Decision.Rejected`: a spec has no new bundle to serve, and why
* `KeyMap.TakenBefore`: a listener is served for a spec that comes before another
* `Tally.record`: the decision goes into the tally
* `Tally.Logged`: what a tally warns of and counts is what it reports

## Main results

* `Tally.add_eq_record`: a pass decides a spec, then records the decision
* `Tally.Logged.add`, `logged_assemble`: each failure is warned of and counted as it is reported
* `Decision.make_again`: a spec whose earlier bundle is the one decided on is decided alike
* `Decision.make_eq_fresh_iff`, `Decision.make_eq_kept_iff`, `Decision.make_eq_lost_iff`: when each
  decision is made
* `Decision.make_congr`: conflicts of other bundles than those of the spec do not count
* `KeyMap.exists_of_conflictBefore?_eq_some`: who a conflict is with
-/

namespace TrafficPlane

variable {key owner : QualifiedName} {bundle : Bundle} {listener : String}

/-- What becomes of a listed spec. -/
inductive Decision where
  /-- It is served with its new bundle. -/
  | fresh (bundle : Bundle)
  /-- It has no new bundle and is served with the one before. -/
  | kept (fault : Fault) (bundle : Bundle)
  /-- It has no new bundle and is not served. -/
  | lost (fault : Fault)

namespace Decision

variable {conflict? : Bundle → Option ConfigCause} {earlier : Option Bundle}
  {made : Except Fault Bundle} {fault : Fault}

/-- The bundle that the spec is served with. -/
def bundle? : Decision → Option Bundle
  | fresh bundle => some bundle
  | kept _ bundle => some bundle
  | lost _ => none

/-- The spec is served with its new bundle. -/
def isFresh : Decision → Bool
  | fresh _ => true
  | _ => false

/-- The spec is served with the bundle before. -/
def isKept : Decision → Bool
  | kept _ _ => true
  | _ => false

theorem isFresh_iff {decision : Decision} :
    decision.isFresh ↔ ∃ bundle, decision = .fresh bundle := by
  cases decision <;> simp [isFresh]

theorem isKept_iff {decision : Decision} :
    decision.isKept ↔ ∃ fault bundle, decision = .kept fault bundle := by
  cases decision <;> simp [isKept]

/-- The failure that is reported of the spec. -/
def failure? (key : QualifiedName) : Decision → Option Failure
  | fresh _ => none
  | kept fault _ => some { spec := key, fault, retained := true }
  | lost fault => some { spec := key, fault, retained := false }

/-- The decision on a spec without a new bundle: the one before is served if it is in no conflict. -/
def fallBack (conflict? : Bundle → Option ConfigCause) (earlier : Option Bundle) (fault : Fault) :
    Decision :=
  match earlier.filter fun bundle => (conflict? bundle).isNone with
  | some bundle => .kept fault bundle
  | none => .lost fault

/-- The decision on a spec, by the conflicts that bundles are in, the bundle that it had before, and
the new bundle or the fault in its place. -/
def make (conflict? : Bundle → Option ConfigCause) (earlier : Option Bundle) :
    Except Fault Bundle → Decision
  | .error fault => fallBack conflict? earlier fault
  | .ok bundle =>
    match conflict? bundle with
    | some cause => fallBack conflict? earlier (.config cause)
    | none => .fresh bundle

/-- There is no new bundle to serve, for this fault: none was made, or it is in a conflict. -/
def Rejected (conflict? : Bundle → Option ConfigCause) (made : Except Fault Bundle)
    (fault : Fault) : Prop :=
  made = .error fault ∨
    ∃ bundle cause, made = .ok bundle ∧ conflict? bundle = some cause ∧ fault = .config cause

/-- Either the new bundle is served or it is rejected, and then the spec falls back. -/
theorem make_cases (conflict? : Bundle → Option ConfigCause) (earlier : Option Bundle)
    (made : Except Fault Bundle) :
    (∃ bundle, made = .ok bundle ∧ conflict? bundle = none ∧
      make conflict? earlier made = .fresh bundle) ∨
    ∃ fault, Rejected conflict? made fault ∧
      make conflict? earlier made = fallBack conflict? earlier fault := by
  cases made with
  | error fault => exact .inr ⟨fault, .inl rfl, rfl⟩
  | ok bundle =>
    cases hconflict : conflict? bundle with
    | some cause =>
      exact .inr ⟨.config cause, .inr ⟨bundle, cause, rfl, hconflict, rfl⟩, by simp [make, hconflict]⟩
    | none => exact .inl ⟨bundle, rfl, hconflict, by simp [make, hconflict]⟩

theorem Rejected.make_eq (h : Rejected conflict? made fault) :
    make conflict? earlier made = fallBack conflict? earlier fault := by
  rcases h with rfl | ⟨bundle, cause, rfl, hconflict, rfl⟩
  · rfl
  · simp [make, hconflict]

theorem fallBack_eq_kept_iff {fault' : Fault} : fallBack conflict? earlier fault = .kept fault' bundle ↔
    fault = fault' ∧ earlier = some bundle ∧ conflict? bundle = none := by
  cases earlier with
  | none => simp [fallBack]
  | some before =>
    cases hconflict : conflict? before <;> simp [fallBack, Option.filter_some, hconflict]
    · rintro - rfl
      exact hconflict
    · rintro - rfl
      simp [hconflict]

theorem fallBack_ne_fresh : fallBack conflict? earlier fault ≠ .fresh bundle := by
  rw [fallBack]
  split <;> simp

theorem fallBack_eq_lost_iff {fault' : Fault} : fallBack conflict? earlier fault = .lost fault' ↔
    fault = fault' ∧ ∀ bundle, earlier = some bundle → conflict? bundle ≠ none := by
  cases earlier with
  | none => simp [fallBack]
  | some before => cases hconflict : conflict? before <;> simp [fallBack, Option.filter_some, hconflict]

theorem make_eq_fresh_iff : make conflict? earlier made = .fresh bundle ↔
    made = .ok bundle ∧ conflict? bundle = none := by
  constructor
  · intro h
    rcases make_cases conflict? earlier made with ⟨bundle', hmade, hfree, hfresh⟩ | ⟨fault, -, hback⟩
    · obtain rfl := Decision.fresh.inj (hfresh.symm.trans h)
      exact ⟨hmade, hfree⟩
    · exact absurd (hback.symm.trans h) fallBack_ne_fresh
  · rintro ⟨rfl, hfree⟩
    simp [make, hfree]

theorem make_eq_kept_iff : make conflict? earlier made = .kept fault bundle ↔
    Rejected conflict? made fault ∧ earlier = some bundle ∧ conflict? bundle = none := by
  constructor
  · intro h
    rcases make_cases conflict? earlier made with ⟨bundle', -, -, hfresh⟩ | ⟨fault', hrejected, hback⟩
    · exact absurd (hfresh.symm.trans h) nofun
    · obtain ⟨rfl, hearlier⟩ := fallBack_eq_kept_iff.mp (hback.symm.trans h)
      exact ⟨hrejected, hearlier⟩
  · rintro ⟨hrejected, hearlier⟩
    exact hrejected.make_eq.trans (fallBack_eq_kept_iff.mpr ⟨rfl, hearlier⟩)

theorem make_eq_lost_iff : make conflict? earlier made = .lost fault ↔
    Rejected conflict? made fault ∧ ∀ bundle, earlier = some bundle → conflict? bundle ≠ none := by
  constructor
  · intro h
    rcases make_cases conflict? earlier made with ⟨bundle', -, -, hfresh⟩ | ⟨fault', hrejected, hback⟩
    · exact absurd (hfresh.symm.trans h) nofun
    · obtain ⟨rfl, hearlier⟩ := fallBack_eq_lost_iff.mp (hback.symm.trans h)
      exact ⟨hrejected, hearlier⟩
  · rintro ⟨hrejected, hearlier⟩
    exact hrejected.make_eq.trans (fallBack_eq_lost_iff.mpr ⟨rfl, hearlier⟩)

/-- No bundle is served that is in a conflict. -/
theorem conflict?_eq_none_of_bundle? (h : (make conflict? earlier made).bundle? = some bundle) :
    conflict? bundle = none := by
  cases hmake : make conflict? earlier made with
  | fresh bundle' =>
    obtain rfl : bundle' = bundle := by simpa [hmake, bundle?] using h
    exact (make_eq_fresh_iff.mp hmake).2
  | kept fault bundle' =>
    obtain rfl : bundle' = bundle := by simpa [hmake, bundle?] using h
    exact (make_eq_kept_iff.mp hmake).2.2
  | lost fault => simp [hmake, bundle?] at h

/-- With the bundle that was decided on as the one before, the same decision is made again. -/
theorem make_again : make conflict? (make conflict? earlier made).bundle? made =
    make conflict? earlier made := by
  cases hmake : make conflict? earlier made with
  | fresh bundle => exact make_eq_fresh_iff.mpr (make_eq_fresh_iff.mp hmake)
  | kept fault bundle =>
    -- the same fault sends the spec back to the same bundle, which is still in no conflict
    obtain ⟨hrejected, -, hfree⟩ := make_eq_kept_iff.mp hmake
    exact make_eq_kept_iff.mpr ⟨hrejected, rfl, hfree⟩
  | lost fault =>
    -- there is no bundle to fall back on any more
    exact make_eq_lost_iff.mpr ⟨(make_eq_lost_iff.mp hmake).1, nofun⟩

/-- Conflicts count only as far as they concern the new bundle or the one before. -/
theorem make_congr (h : ∀ bundle, made = .ok bundle ∨ earlier = some bundle →
      conflict? bundle = conflict?' bundle) :
    make conflict? earlier made = make conflict?' earlier made := by
  have hback : ∀ fault, fallBack conflict? earlier fault = fallBack conflict?' earlier fault := by
    intro fault
    rw [fallBack, fallBack]
    cases earlier with
    | none => rfl
    | some before => rw [Option.filter_some, Option.filter_some, h before (.inr rfl)]
  cases made with
  | error fault => exact hback fault
  | ok bundle =>
    rw [make, make, h bundle (.inl rfl)]
    cases conflict?' bundle with
    | none => rfl
    | some cause => exact hback (.config cause)

/-- Without conflicts the new bundle is served if there is one, and else the one before. -/
theorem bundle?_make_of_free :
    (make (fun _ => none) earlier made).bundle? = made.toOption.or earlier := by
  cases made with
  | error fault => cases earlier <;> rfl
  | ok bundle => rfl

/-- The failure of a spec is reported under its own key. -/
theorem spec_of_failure? {decision : Decision} {failure : Failure}
    (h : decision.failure? key = some failure) : failure.spec = key := by
  cases decision with
  | fresh bundle => cases h
  | kept fault bundle =>
    obtain rfl := Option.some.inj h
    rfl
  | lost fault =>
    obtain rfl := Option.some.inj h
    rfl

/-- A spec whose new bundle is rejected fails with the fault of the rejection. -/
theorem Rejected.failure?_make (h : Rejected conflict? made fault) :
    ∃ retained, (make conflict? earlier made).failure? key =
      some { spec := key, fault, retained } := by
  rw [h.make_eq, fallBack]
  cases earlier.filter fun bundle => (conflict? bundle).isNone with
  | some bundle => exact ⟨true, rfl⟩
  | none => exact ⟨false, rfl⟩

end Decision

/-! ### Recording decisions -/

namespace Tally

/-- Serves the bundle that was decided on, and notes what became of the spec. -/
def record (tally : Tally) (key : QualifiedName) (decision : Decision) : Tally where
  bundles := (decision.bundle?.map (tally.bundles.insert key)).getD tally.bundles
  claims := (decision.bundle?.map fun bundle => (bundle.listener.name, key)).toList ++ tally.claims
  synthesized := tally.synthesized ++ if decision.isFresh then [key] else []
  retained := tally.retained ++ if decision.isKept then [key] else []
  failures := tally.failures ++ (decision.failure? key).toList
  warnings := tally.warnings ++ ((decision.failure? key).map fun failure =>
    .specFailed failure.spec failure.fault failure.retained).toList
  counted := tally.counted ++ ((decision.failure? key).map (·.fault.kind)).toList

theorem fail_eq_record {tally : Tally} {previous : Snapshot} {fault : Fault} :
    tally.fail previous key fault =
      tally.record key (.fallBack (tally.conflict? key) (previous.bundle? key) fault) := by
  rw [fail, Decision.fallBack, fallback?]
  cases (previous.bundle? key).filter fun bundle => (tally.conflict? key bundle).isNone <;>
    simp [record, note, serve, Decision.bundle?, Decision.isFresh, Decision.isKept,
      Decision.failure?]

/-- Adding a spec to a tally records the decision on it. -/
theorem add_eq_record {tally : Tally} {previous : Snapshot} {made : Except Fault Bundle} :
    tally.add previous key made =
      tally.record key (.make (tally.conflict? key) (previous.bundle? key) made) := by
  cases made with
  | error fault => exact fail_eq_record
  | ok bundle =>
    rw [add, Decision.make]
    dsimp only
    cases tally.conflict? key bundle with
    | some cause => exact fail_eq_record
    | none =>
      simp [record, serve, Decision.bundle?, Decision.isFresh, Decision.isKept, Decision.failure?]

/-- So far the failures that are reported have been warned of and counted, in the same order and with
the same data. -/
structure Logged (tally : Tally) : Prop where
  warnings_eq : tally.warnings = tally.failures.map fun failure =>
    .specFailed failure.spec failure.fault failure.retained
  counted_eq : tally.counted = tally.failures.map (·.fault.kind)

/-- Deciding one more spec notes its failure in all three places or in none. -/
theorem Logged.add {tally : Tally} (h : tally.Logged) (previous : Snapshot) (key : QualifiedName)
    (made : Except Fault Bundle) : (tally.add previous key made).Logged := by
  rw [add_eq_record]
  cases hfailure : (Decision.make (tally.conflict? key) (previous.bundle? key) made).failure? key with
  | none => constructor <;> simp [record, hfailure, h.warnings_eq, h.counted_eq]
  | some failure => constructor <;> simp [record, hfailure, h.warnings_eq, h.counted_eq]

end Tally

/-- What a pass warns of and counts while it decides is what it reports. -/
theorem logged_assemble (previous : Snapshot) (index : MembershipIndex)
    (specs : KeyMap RoutingSpec) : (assemble previous index specs).Logged := by
  have hfold : ∀ (listed : List (QualifiedName × RoutingSpec)) (tally : Tally), tally.Logged →
      (listed.foldl (fun tally entry =>
        tally.add previous entry.1 (Bundle.synthesize entry.2 index)) tally).Logged := by
    intro listed
    induction listed with
    | nil => exact fun _ h => h
    | cons entry rest ih => exact fun tally h => ih _ (h.add previous entry.1 _)
  exact hfold specs.entries {} ⟨rfl, rfl⟩

/-! ### Who holds a listener -/

namespace KeyMap

variable {bundles : KeyMap Bundle}

/-- The spec that is served with a listener. -/
def holder? (bundles : KeyMap Bundle) (listener : String) : Option QualifiedName :=
  (bundles.entries.find? (·.2.listener.name = listener)).map (·.1)

/-- A spec that comes before another is served with a listener. -/
def TakenBefore (bundles : KeyMap Bundle) (key : QualifiedName) (listener : String) : Prop :=
  ∃ owner bundle, owner < key ∧ bundles.find? owner = some bundle ∧ bundle.listener.name = listener

instance (bundles : KeyMap Bundle) (key : QualifiedName) (listener : String) :
    Decidable (bundles.TakenBefore key listener) :=
  decidable_of_iff (∃ entry ∈ bundles.entries, entry.1 < key ∧ entry.2.listener.name = listener) <| by
    simp only [TakenBefore, Prod.exists, mem_entries_iff]
    exact exists_congr fun owner => exists_congr fun bundle => and_left_comm

/-- The conflict that a bundle is in with the specs before its own. -/
def conflictBefore? (bundles : KeyMap Bundle) (key : QualifiedName) (bundle : Bundle) :
    Option ConfigCause :=
  ((bundles.before key).holder? bundle.listener.name).map
    (.listenerTaken bundle.listener.name key)

theorem exists_of_holder?_eq_some (h : bundles.holder? listener = some owner) :
    ∃ bundle, bundles.find? owner = some bundle ∧ bundle.listener.name = listener := by
  obtain ⟨⟨k, bundle⟩, hfind, rfl⟩ := Option.map_eq_some_iff.mp h
  exact ⟨bundle, mem_entries_iff.mp (List.mem_of_find?_eq_some hfind),
    by simpa using List.find?_some hfind⟩

theorem holder?_eq_none_iff : bundles.holder? listener = none ↔
    ∀ key bundle, bundles.find? key = some bundle → bundle.listener.name ≠ listener := by
  simp only [holder?, Option.map_eq_none_iff, List.find?_eq_none, decide_eq_true_eq]
  constructor
  · intro h key bundle hfind
    exact h (key, bundle) (mem_entries_iff.mpr hfind)
  · rintro h ⟨key, bundle⟩ hmem
    exact h key bundle (mem_entries_iff.mp hmem)

theorem holder?_insert_of_greatest
    (h : ∀ other bundle, bundles.find? other = some bundle → other < key) :
    (bundles.insert key bundle).holder? listener =
      (bundles.holder? listener).or (if bundle.listener.name = listener then some key else none) := by
  -- the new entry is the last one, so it counts only if no other has the listener
  rw [holder?, holder?, entries_insert_of_greatest h, List.find?_append]
  cases bundles.entries.find? (·.2.listener.name = listener) with
  | some entry => simp
  | none => by_cases hname : bundle.listener.name = listener <;> simp [hname]

theorem conflictBefore?_eq_none_iff : bundles.conflictBefore? key bundle = none ↔
    ¬ bundles.TakenBefore key bundle.listener.name := by
  simp only [conflictBefore?, Option.map_eq_none_iff, holder?_eq_none_iff, find?_before_eq_some_iff,
    TakenBefore]
  grind

/-- A conflict is with a spec that comes before and is served with the listener. -/
theorem exists_of_conflictBefore?_eq_some {cause : ConfigCause}
    (h : bundles.conflictBefore? key bundle = some cause) :
    ∃ owner other, owner < key ∧ bundles.find? owner = some other ∧
      other.listener.name = bundle.listener.name ∧
      cause = .listenerTaken bundle.listener.name key owner := by
  obtain ⟨owner, hholder, rfl⟩ := Option.map_eq_some_iff.mp h
  obtain ⟨other, hfind, hname⟩ := exists_of_holder?_eq_some hholder
  obtain ⟨hlt, hfind⟩ := find?_before_eq_some_iff.mp hfind
  exact ⟨owner, other, hlt, hfind, hname, rfl⟩

theorem takenBefore_of_conflictBefore?_ne_none (h : bundles.conflictBefore? key bundle ≠ none) :
    bundles.TakenBefore key bundle.listener.name := by
  obtain ⟨cause, hcause⟩ := Option.ne_none_iff_exists'.mp h
  obtain ⟨owner, other, hlt, hfind, hname, -⟩ := exists_of_conflictBefore?_eq_some hcause
  exact ⟨owner, other, hlt, hfind, hname⟩

end KeyMap

end TrafficPlane
