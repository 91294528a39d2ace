import TrafficPlane.Proofs.Membership
import TrafficPlane.Proofs.Run

/-!
# Contention for listeners

The specs of a pass have nothing to do with each other but for the listeners that they ask for. A
spec that loses a bundle to another one is told which spec holds the listener, and that spec is
indeed served with it. A spec whose listeners nobody else asks for gets what it would get alone.

## Main definitions

* `Bundle.candidates`: the bundles that a listed spec may come to be served with
* `Uncontended`: no other listed spec may come to be served with a listener of the spec

## Main results

* `Tally.Settles.exists_owner`: who holds the listener of a new bundle that is not served
* `Tally.Settles.decision_of_uncontended`: the decision on a spec that is in nobody's way
* `Plane.losses_justified`: what is lost to a conflict is held by a spec that is served
* `Plane.spec_isolated`: uncontended specs get the same from all passes that agree on what they read
-/

namespace TrafficPlane

variable {previous : Snapshot} {index : MembershipIndex} {specs : KeyMap RoutingSpec}
  {tally : Tally} {key : QualifiedName} {spec : RoutingSpec} {bundle : Bundle}

/-! ### Contenders -/

/-- The bundles that a listed spec may come to be served with: its new one and the one before. -/
def Bundle.candidates (previous : Snapshot) (index : MembershipIndex)
    (entry : QualifiedName × RoutingSpec) : List Bundle :=
  (Bundle.synthesize entry.2 index).toOption.toList ++ (previous.bundle? entry.1).toList

/-- No other listed spec may come to be served with a listener that the spec may be served with. -/
def Uncontended (previous : Snapshot) (index : MembershipIndex) (specs : KeyMap RoutingSpec)
    (key : QualifiedName) (spec : RoutingSpec) : Prop :=
  ∀ entry ∈ specs.entries, entry.1 ≠ key → ∀ theirs ∈ Bundle.candidates previous index entry,
    ∀ own ∈ Bundle.candidates previous index (key, spec), theirs.listener.name ≠ own.listener.name

instance : Decidable (Uncontended previous index specs key spec) :=
  inferInstanceAs (Decidable (∀ entry ∈ specs.entries, entry.1 ≠ key →
    ∀ theirs ∈ Bundle.candidates previous index entry,
      ∀ own ∈ Bundle.candidates previous index (key, spec),
        theirs.listener.name ≠ own.listener.name))

theorem Bundle.mem_candidates_iff : bundle ∈ Bundle.candidates previous index (key, spec) ↔
    Bundle.synthesize spec index = .ok bundle ∨ previous.bundle? key = some bundle := by
  rw [candidates, List.mem_append, Option.mem_toList, Option.mem_toList]
  cases Bundle.synthesize spec index <;> simp [Except.toOption]

namespace Tally.Settles

variable (h : tally.Settles previous index specs.entries)

include h

/-- A listed spec with a new bundle that is not served has lost it to a spec before it, which is
served with the listener and is named by the fault. -/
theorem exists_owner (hspec : specs.find? key = some spec)
    (hmade : Bundle.synthesize spec index = .ok bundle) (hkey : key ∉ tally.synthesized) :
    ∃ owner other, owner < key ∧ tally.bundles.find? owner = some other ∧
      other.listener.name = bundle.listener.name ∧
      Decision.Rejected (tally.bundles.conflictBefore? key) (Bundle.synthesize spec index)
        (.config (.listenerTaken bundle.listener.name key owner)) := by
  cases hconflict : tally.bundles.conflictBefore? key bundle with
  | none =>
    -- without a conflict the spec would be served with its new bundle
    have hfresh : tally.decision previous index (key, spec) = .fresh bundle :=
      Decision.make_eq_fresh_iff.mpr ⟨hmade, hconflict⟩
    have hsynthesized : key ∈ tally.synthesized :=
      h.mem_synthesized_iff.mpr ⟨spec, hspec, Decision.isFresh_iff.mpr ⟨bundle, hfresh⟩⟩
    exact absurd hsynthesized hkey
  | some cause =>
    obtain ⟨owner, other, hlt, hfind, hname, rfl⟩ :=
      KeyMap.exists_of_conflictBefore?_eq_some hconflict
    exact ⟨owner, other, hlt, hfind, hname, .inr ⟨bundle, _, hmade, hconflict, rfl⟩⟩

/-- A failed spec that does not keep the bundle before has lost it to a spec before it, which is
served with the listener. -/
theorem takenBefore_of_not_retained {failure : Failure} (hfailure : failure ∈ tally.failures)
    (hretained : failure.retained = false) {earlier : Bundle}
    (hearlier : previous.bundle? failure.spec = some earlier) :
    tally.bundles.TakenBefore failure.spec earlier.listener.name := by
  obtain ⟨key, spec, hspec, hdecision⟩ := h.mem_failures_iff.mp hfailure
  rw [Decision.spec_of_failure? hdecision] at hearlier ⊢
  cases hmake : tally.decision previous index (key, spec) with
  | fresh bundle =>
    rw [hmake] at hdecision
    cases hdecision
  | kept fault bundle =>
    -- a spec that keeps its bundle is marked as retained
    rw [hmake] at hdecision
    obtain rfl := Option.some.inj hdecision
    cases hretained
  | lost fault =>
    obtain ⟨-, hlost⟩ := Decision.make_eq_lost_iff.mp hmake
    exact KeyMap.takenBefore_of_conflictBefore?_ne_none (hlost earlier hearlier)

/-- A spec that is in nobody's way is decided as if it were alone. -/
theorem decision_of_uncontended (hfree : Uncontended previous index specs key spec) :
    tally.decision previous index (key, spec) =
      .make (fun _ => none) (previous.bundle? key) (Bundle.synthesize spec index) := by
  refine Decision.make_congr fun own hown => KeyMap.conflictBefore?_eq_none_iff.mpr ?_
  have hown : own ∈ Bundle.candidates previous index (key, spec) :=
    Bundle.mem_candidates_iff.mpr hown
  rintro ⟨owner, theirs, hlt, hfind, hname⟩
  have hne : owner ≠ key := by
    rintro rfl
    exact QualifiedName.lt_irrefl owner hlt
  -- whoever is served with the listener would be a contender
  obtain ⟨other, hother, hserved⟩ := h.served_cases hfind
  have hlisted : (owner, other) ∈ specs.entries := KeyMap.mem_entries_iff.mpr hother
  have htheirs : theirs ∈ Bundle.candidates previous index (owner, other) :=
    Bundle.mem_candidates_iff.mpr (hserved.imp And.left And.left)
  exact hfree (owner, other) hlisted hne theirs htheirs own hown hname

end Tally.Settles

namespace Plane

variable {plane plane' : Plane} {inputs inputs' : Inputs} {report report' : Report}
  {specs' : KeyMap RoutingSpec} {index' : MembershipIndex}

/-! ### What is lost to a conflict -/

/-- Whatever a published pass withholds from a spec because of a listener is justified by what it
publishes. No listener is served twice. A spec with a new bundle that is not served fails with a
fault of configuration that names a spec before it, which is served with that bundle's listener. A
failed spec that does not keep its earlier bundle comes after a spec that is served with the
listener of that one. -/
theorem losses_justified (h : plane.Reachable)
    (hreport : (plane.runPass inputs).outcome = .ok report) :
    let live := (plane.runPass inputs).plane.store.live
    ∃ specs index, inputs.list = .ok (specs, index) ∧
      (∀ key bundle key' bundle', live.bundle? key = some bundle →
        live.bundle? key' = some bundle' → bundle.listener.name = bundle'.listener.name →
          key = key') ∧
      (∀ key spec bundle, specs.find? key = some spec → Bundle.synthesize spec index = .ok bundle →
        key ∉ report.synthesized →
        ∃ owner other, owner < key ∧ live.bundle? owner = some other ∧
          other.listener.name = bundle.listener.name ∧
          (∃ failure ∈ report.failures, failure.spec = key) ∧
          ∀ failure ∈ report.failures, failure.spec = key →
            failure.fault = .config (.listenerTaken bundle.listener.name key owner)) ∧
      ∀ failure ∈ report.failures, failure.retained = false →
        ∀ earlier, plane.store.live.bundle? failure.spec = some earlier →
          ∃ owner other, owner < failure.spec ∧ live.bundle? owner = some other ∧
            other.listener.name = earlier.listener.name := by
  intro live
  obtain ⟨specs, index, tally, hlist, hsettles, rfl, hstore⟩ := settles_of_report h.sound hreport
  have hlive : live.bundles = tally.bundles := by
    simp only [live, hstore]
    rfl
  simp only [Snapshot.bundle?, hlive]
  refine ⟨specs, index, hlist, ?_, ?_, ?_⟩
  · intro key bundle key' bundle' hfind hfind' hname
    exact hsettles.listener_inj hfind hfind' hname
  · intro key spec bundle hspec hmade hkey
    obtain ⟨owner, other, hlt, hfind, hname, hrejected⟩ := hsettles.exists_owner hspec hmade hkey
    obtain ⟨retained, hdecision⟩ := hrejected.failure?_make
    refine ⟨owner, other, hlt, hfind, hname, ?_, ?_⟩
    · exact ⟨_, (hsettles.mem_failures_of_spec hspec rfl).mpr hdecision, rfl⟩
    · intro failure hfailure hfor
      have hdecision' := (hsettles.mem_failures_of_spec hspec hfor).mp hfailure
      obtain rfl := Option.some.inj (hdecision.symm.trans hdecision')
      rfl
  · intro failure hfailure hretained earlier hearlier
    exact hsettles.takenBefore_of_not_retained hfailure hretained hearlier

/-- A spec that has its listener taken over by one before it loses both of its bundles to that
one. -/
theorem losses_justified_of_takeover :
    let first : Inputs := {
      specs := .ok [{ name := "a", listener := "l" }, { name := "b", listener := "m" }]
      memberships := .ok [] }
    let second : Inputs := {
      specs := .ok [{ name := "a", listener := "m" }, { name := "b", listener := "m" }]
      memberships := .ok [] }
    let plane := (Plane.runPass {} first).plane
    ∃ report other, (plane.runPass second).outcome = .ok report ∧
      ⟨"default", "b"⟩ ∉ report.synthesized ∧
      { spec := ⟨"default", "b"⟩, retained := false,
        fault := .config (.listenerTaken "m" ⟨"default", "b"⟩ ⟨"default", "a"⟩) } ∈
          report.failures ∧
      (plane.runPass second).plane.store.live.bundle? ⟨"default", "a"⟩ = some other ∧
      other.listener.name = "m" := by
  intro first second plane
  have hfirst : plane.store = _ :=
    (runPass_of_list Store.sound_new (rfl : first.cancelled = none) rfl).2
  have hreachable : plane.Reachable := .pass (.new {}) first
  obtain ⟨report, hreport, hlost, hfailed⟩ : ∃ report, (plane.runPass second).outcome = .ok report ∧
      ⟨"default", "b"⟩ ∉ report.synthesized ∧
      { spec := ⟨"default", "b"⟩, retained := false,
        fault := .config (.listenerTaken "m" ⟨"default", "b"⟩ ⟨"default", "a"⟩) } ∈
          report.failures := by
    refine ⟨_, (runPass_of_list hreachable.sound (rfl : second.cancelled = none) rfl).1, ?_, ?_⟩ <;>
      rw [hfirst] <;> decide +kernel
  obtain ⟨specs, index, hlist, -, hlosses, -⟩ := losses_justified hreachable hreport
  obtain ⟨rfl, rfl⟩ := Prod.mk.inj (Except.ok.inj hlist)
  obtain ⟨bundle, hmade⟩ : ∃ bundle, Bundle.synthesize { name := "b", listener := "m" }
      (MembershipIndex.ofList []) = .ok bundle := exists_of_isSome (by decide +kernel)
  obtain ⟨owner, other, -, hserved, hname, -, hfault⟩ :=
    hlosses ⟨"default", "b"⟩ _ bundle (by decide) hmade hlost
  -- the spec that the failure names is the one that holds the listener
  have hnamed := Fault.config.inj (hfault _ hfailed rfl)
  obtain ⟨-, -, rfl⟩ := ConfigCause.listenerTaken.inj hnamed
  have hlistener : bundle.listener.name = "m" := Bundle.listener_name_of_synthesize hmade
  exact ⟨report, other, hreport, hlost, hfailed, hserved, hname.trans hlistener⟩

/-! ### What is in nobody's way -/

/-- A spec that two published passes list alike, whose services both memberships have alike, and
which had the same bundle before both, gets the same from both if it is in nobody's way in either:
the same bundle, which is the new one if there is one and else the one before, and the same report.
It makes no difference what else is listed, what else was served, or what other services have. -/
theorem spec_isolated (h : plane.Reachable) (h' : plane'.Reachable)
    (hreport : (plane.runPass inputs).outcome = .ok report)
    (hreport' : (plane'.runPass inputs').outcome = .ok report')
    (hlist : inputs.list = .ok (specs, index)) (hlist' : inputs'.list = .ok (specs', index'))
    (hspec : specs.find? key = some spec) (hspec' : specs'.find? key = some spec)
    (hservices : ∀ service ∈ spec.services, index.find? service = index'.find? service)
    (hearlier : plane.store.live.bundle? key = plane'.store.live.bundle? key)
    (hfree : Uncontended plane.store.live index specs key spec)
    (hfree' : Uncontended plane'.store.live index' specs' key spec) :
    let live := (plane.runPass inputs).plane.store.live
    let live' := (plane'.runPass inputs').plane.store.live
    live.bundle? key = live'.bundle? key ∧
      live.bundle? key =
        (Bundle.synthesize spec index).toOption.or (plane.store.live.bundle? key) ∧
      (key ∈ report.synthesized ↔ key ∈ report'.synthesized) ∧
      (key ∈ report.retained ↔ key ∈ report'.retained) ∧
      ∀ failure, failure.spec = key → (failure ∈ report.failures ↔ failure ∈ report'.failures) := by
  intro live live'
  obtain ⟨_, _, tally, hlisted, hsettles, rfl, hstore⟩ := settles_of_report h.sound hreport
  obtain ⟨rfl, rfl⟩ := Prod.mk.inj (Except.ok.inj (hlist.symm.trans hlisted))
  obtain ⟨_, _, tally', hlisted', hsettles', rfl, hstore'⟩ := settles_of_report h'.sound hreport'
  obtain ⟨rfl, rfl⟩ := Prod.mk.inj (Except.ok.inj (hlist'.symm.trans hlisted'))
  have hlive : live.bundle? key = tally.bundles.find? key := by
    simp only [live, hstore]
    rfl
  have hlive' : live'.bundle? key = tally'.bundles.find? key := by
    simp only [live', hstore']
    rfl
  -- both passes decide on the spec alone, by the same new bundle and the same one before
  have halone := hsettles.decision_of_uncontended hfree
  have halone' := hsettles'.decision_of_uncontended hfree'
  have hsame : tally.decision plane.store.live index (key, spec) =
      tally'.decision plane'.store.live index' (key, spec) := by
    rw [halone, halone', Bundle.synthesize_congr hservices, hearlier]
  obtain ⟨hbundle, hsynthesized, hretained, hfailures⟩ :=
    hsettles.alike_of_decision_eq hsettles' hspec hspec' hsame
  refine ⟨?_, ?_, hsynthesized, hretained, hfailures⟩
  · rw [hlive, hlive', hbundle]
  · rw [hlive, hsettles.find?_eq hspec, halone, Decision.bundle?_make_of_free]

/-- A spec is served with its new bundle and then with the one before, when its listener is emptied,
whether it is alone or other specs fail and fight over a listener of theirs. -/
theorem spec_isolated_among_others :
    let spec : RoutingSpec := {
      name := "b", listener := "m"
      clusters := [{
        name := "c", localities := [{ service := some { name := "s", port := .numbered 80 } }] }] }
    let broken : RoutingSpec := { spec with listener := "" }
    let alone (spec : RoutingSpec) : Inputs := {
      specs := .ok [spec], memberships := .ok [{ name := "s" }] }
    let first : Inputs := {
      specs := .ok [{ name := "a", listener := "l" }, spec]
      memberships := .ok [{ name := "t" }, { name := "s" }] }
    let second : Inputs := {
      specs := .ok [broken, { name := "a", listener := "" }, { name := "c", listener := "l" }]
      memberships := .ok [{ name := "s" }, { name := "s", space := "other" }] }
    let plane := (Plane.runPass {} (alone spec)).plane
    let plane' := (Plane.runPass {} first).plane
    ∃ bundle report report', plane.store.live.bundle? ⟨"default", "b"⟩ = some bundle ∧
      plane'.store.live.bundle? ⟨"default", "b"⟩ = some bundle ∧
      (plane.runPass (alone broken)).outcome = .ok report ∧
      (plane'.runPass second).outcome = .ok report' ∧
      (plane.runPass (alone broken)).plane.store.live.bundle? ⟨"default", "b"⟩ = some bundle ∧
      (plane'.runPass second).plane.store.live.bundle? ⟨"default", "b"⟩ = some bundle ∧
      report.retained = [⟨"default", "b"⟩] ∧ ⟨"default", "b"⟩ ∈ report'.retained := by
  intro spec broken alone first second plane plane'
  have hnew : Plane.Reachable {} := .new {}
  obtain ⟨hreport, hstore⟩ :=
    runPass_of_list hnew.sound (rfl : (alone spec).cancelled = none) rfl
  obtain ⟨hreport', hstore'⟩ := runPass_of_list hnew.sound (rfl : first.cancelled = none) rfl
  obtain ⟨bundle, hmade⟩ : ∃ bundle,
      Bundle.synthesize spec (MembershipIndex.ofList [{ name := "s" }]) = .ok bundle :=
    exists_of_isSome (by decide +kernel)
  have hlisted : (KeyMap.ofList RoutingSpec.key [spec]).find? ⟨"default", "b"⟩ = some spec := by
    decide
  have hlisted' : (KeyMap.ofList RoutingSpec.key [{ name := "a", listener := "l" }, spec]).find?
      ⟨"default", "b"⟩ = some spec := by decide
  obtain ⟨hsame, hfresh, -⟩ := spec_isolated hnew hnew hreport hreport' rfl rfl hlisted hlisted'
    (by decide +kernel) rfl (by decide +kernel) (by decide +kernel)
  have hserved : plane.store.live.bundle? ⟨"default", "b"⟩ = some bundle := by
    rw [hmade] at hfresh
    exact hfresh
  have hreachable : plane.Reachable := .pass hnew (alone spec)
  have hreachable' : plane'.Reachable := .pass hnew first
  obtain ⟨report, hsecond, hkept⟩ : ∃ report, (plane.runPass (alone broken)).outcome = .ok report ∧
      report.retained = [⟨"default", "b"⟩] := by
    refine ⟨_, (runPass_of_list hreachable.sound (rfl : (alone broken).cancelled = none) rfl).1, ?_⟩
    rw [hstore]
    decide +kernel
  have hsecond' := (runPass_of_list hreachable'.sound (rfl : second.cancelled = none) rfl).1
  have hlisted : (KeyMap.ofList RoutingSpec.key [broken]).find? ⟨"default", "b"⟩ = some broken := by
    decide
  have hlisted' : (KeyMap.ofList RoutingSpec.key [broken, { name := "a", listener := "" },
      { name := "c", listener := "l" }]).find? ⟨"default", "b"⟩ = some broken := by decide
  obtain ⟨hsame', hback, -, hretained, -⟩ := spec_isolated hreachable hreachable' hsecond hsecond'
    rfl rfl hlisted hlisted' (by decide +kernel) hsame (by rw [hstore]; decide +kernel)
    (by rw [hstore']; decide +kernel)
  have hbroken : (Bundle.synthesize broken (MembershipIndex.ofList [{ name := "s" }])).toOption =
      none := Option.isNone_iff_eq_none.mp (by decide +kernel)
  rw [hserved, hbroken] at hback
  exact ⟨bundle, report, _, hserved, hsame.symm.trans hserved, hsecond, hsecond', hback,
    hsame'.symm.trans hback, hkept, hretained.mp (by rw [hkept]; exact List.mem_singleton.mpr rfl)⟩

end Plane

end TrafficPlane
