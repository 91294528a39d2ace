import TrafficPlane.Proofs.Run

/-!
# Bundles that specs keep

A listed spec is served with its new bundle. One that has none keeps the bundle before, as long as no
spec that comes before it is served with the listener of that bundle. So every bundle that is served
was made by one pass, and has been kept by each published pass since then.

## Main definitions

* `Plane.SynthesizesAt`: a pass serves a spec with a new bundle
* `Plane.RetainsAt`: a pass serves a spec with the bundle before

## Main results

* `Plane.listed_served`: what a listed spec that had a bundle is served with
* `Plane.bundle_provenance`: where the bundles of published snapshots come from
-/

namespace TrafficPlane

namespace Plane

variable {plane : Plane} {inputs : Inputs} {specs : KeyMap RoutingSpec} {index : MembershipIndex}
  {report : Report} {key : QualifiedName} {spec : RoutingSpec} {earlier bundle : Bundle}

/-! ### One pass -/

/-- A listed spec that had a bundle is served with its new bundle, if it has one and no spec before
it is served with the same listener. Otherwise it is served with the bundle that it had, as long as
no spec before it is served with the listener of that one. -/
theorem listed_served (h : plane.Reachable)
    (hreport : (plane.runPass inputs).outcome = .ok report)
    (hlist : inputs.list = .ok (specs, index)) (hspec : specs.find? key = some spec)
    (hearlier : plane.store.live.bundle? key = some earlier) :
    let live := (plane.runPass inputs).plane.store.live
    (∀ bundle, Bundle.synthesize spec index = .ok bundle →
      ¬ live.bundles.TakenBefore key bundle.listener.name → live.bundle? key = some bundle) ∧
    ((∀ bundle, Bundle.synthesize spec index = .ok bundle →
        live.bundles.TakenBefore key bundle.listener.name) →
      ¬ live.bundles.TakenBefore key earlier.listener.name → live.bundle? key = some earlier) := by
  obtain ⟨specs', index', -, hlist', -, hstore⟩ := runPass_of_report h.sound hreport
  obtain ⟨rfl, rfl⟩ := Prod.mk.inj (Except.ok.inj (hlist.symm.trans hlist'))
  rw [hstore]
  rcases settles_assemble.listed_cases hspec with ⟨made, hmade, hfree, hserved⟩ | ⟨htaken, hkept⟩
  · -- synthesis has one result only, so the bundle that it made is the one in question
    refine ⟨fun bundle hbundle _ => ?_, fun htaken _ => absurd (htaken made hmade) hfree⟩
    obtain rfl := Except.ok.inj (hmade.symm.trans hbundle)
    exact hserved
  · refine ⟨fun bundle hbundle hfree => absurd (htaken bundle hbundle) hfree, fun _ hfree => ?_⟩
    rcases hkept with ⟨earlier', hearlier', -, hkept⟩ | ⟨hlost, -⟩
    · obtain rfl := Option.some.inj (hearlier.symm.trans hearlier')
      exact hkept
    · exact absurd (hlost earlier hearlier) hfree

/-- A spec whose listener has been emptied is served with the bundle that it had, beside one that has
moved to another listener. -/
theorem emptied_listener_keeps_bundle :
    let first : Inputs := {
      specs := .ok [{ name := "a", listener := "l" }, { name := "b", listener := "m" }]
      memberships := .ok [] }
    let second : Inputs := {
      specs := .ok [{ name := "a", listener := "n" }, { name := "b", listener := "" }]
      memberships := .ok [] }
    let plane := (Plane.runPass {} first).plane
    ∃ earlier, plane.store.live.bundle? ⟨"default", "b"⟩ = some earlier ∧
      (plane.runPass second).plane.store.live.bundle? ⟨"default", "b"⟩ = some earlier := by
  intro first second plane
  have hreachable : plane.Reachable := .pass (.new {}) first
  have hfirst : plane.store = _ :=
    (runPass_of_list Store.sound_new (rfl : first.cancelled = none) rfl).2
  obtain ⟨hreport, hsecond⟩ := runPass_of_list hreachable.sound (rfl : second.cancelled = none) rfl
  have hsome : (plane.store.live.bundle? ⟨"default", "b"⟩).isSome := by
    rw [hfirst]
    decide +kernel
  obtain ⟨earlier, hearlier⟩ := Option.isSome_iff_exists.mp hsome
  have hspec : (KeyMap.ofList RoutingSpec.key [{ name := "a", listener := "n" },
      { name := "b", listener := "" }]).find? ⟨"default", "b"⟩ =
        some { name := "b", listener := "" } := by decide
  have hfree : ∀ earlier ∈ plane.store.live.bundle? ⟨"default", "b"⟩,
      ¬ (plane.runPass second).plane.store.live.bundles.TakenBefore ⟨"default", "b"⟩
        earlier.listener.name := by
    rw [hsecond, hfirst]
    decide +kernel
  -- without a listener there is no new bundle, so the one before is what is served
  exact ⟨earlier, hearlier, (listed_served hreachable hreport rfl hspec hearlier).2
    (fun bundle hmade => nomatch hmade) (hfree earlier hearlier)⟩

/-- That every listed spec with a bundle keeps one is not so. A spec that has no listener any more
loses its bundle to a spec that comes before it and asks for the listener of that bundle. -/
theorem not_forall_listed_served :
    ¬ ∀ (plane : Plane) (inputs : Inputs) (report : Report) (specs : KeyMap RoutingSpec)
        (index : MembershipIndex) (key : QualifiedName) (spec : RoutingSpec) (earlier : Bundle),
      plane.Reachable → (plane.runPass inputs).outcome = .ok report →
      inputs.list = .ok (specs, index) → specs.find? key = some spec →
      plane.store.live.bundle? key = some earlier →
      ∃ bundle, (plane.runPass inputs).plane.store.live.bundle? key = some bundle ∧
        (Bundle.synthesize spec index = .ok bundle ∨ bundle = earlier) := by
  intro h
  let first : Inputs := {
    specs := .ok [{ name := "a", listener := "l" }, { name := "b", listener := "m" }]
    memberships := .ok [] }
  -- the first spec now asks for the listener that the second had, which names none
  let second : Inputs := {
    specs := .ok [{ name := "a", listener := "m" }, { name := "b", listener := "" }]
    memberships := .ok [] }
  let plane := (Plane.runPass {} first).plane
  have hreachable : plane.Reachable := .pass (.new {}) first
  have hfirst : plane.store = _ :=
    (runPass_of_list Store.sound_new (rfl : first.cancelled = none) rfl).2
  obtain ⟨hreport, hsecond⟩ := runPass_of_list hreachable.sound (rfl : second.cancelled = none) rfl
  have hsome : (plane.store.live.bundle? ⟨"default", "b"⟩).isSome := by
    rw [hfirst]
    decide +kernel
  have hnone : ((plane.runPass second).plane.store.live.bundle? ⟨"default", "b"⟩).isNone := by
    rw [hsecond, hfirst]
    decide +kernel
  obtain ⟨earlier, hearlier⟩ := Option.isSome_iff_exists.mp hsome
  obtain ⟨bundle, hbundle, -⟩ := h plane second _ _ _ ⟨"default", "b"⟩ { name := "b", listener := "" }
    earlier hreachable hreport rfl (by decide) hearlier
  simp [hbundle] at hnone

/-! ### Runs of passes -/

/-- The pass that follows as many others publishes, for a listed spec, the bundle that synthesis
makes of it, and reports the spec as synthesized. -/
def SynthesizesAt (plane : Plane) (passes : Nat → Inputs) (n : Nat) (key : QualifiedName)
    (bundle : Bundle) : Prop :=
  ∃ specs index spec report, (passes n).list = .ok (specs, index) ∧ specs.find? key = some spec ∧
    Bundle.synthesize spec index = .ok bundle ∧ (plane.pass passes n).outcome = .ok report ∧
    key ∈ report.synthesized ∧
    (plane.after passes (n + 1)).store.live.bundle? key = some bundle

/-- The pass that follows as many others publishes, for a listed spec, a bundle from before, and
reports the spec as failed and retained. -/
def RetainsAt (plane : Plane) (passes : Nat → Inputs) (n : Nat) (key : QualifiedName)
    (bundle : Bundle) : Prop :=
  ∃ specs index spec report fault, (passes n).list = .ok (specs, index) ∧
    specs.find? key = some spec ∧ (plane.pass passes n).outcome = .ok report ∧
    { spec := key, fault, retained := true } ∈ report.failures ∧ key ∈ report.retained ∧
    (plane.after passes (n + 1)).store.live.bundle? key = some bundle

/-- A pass serves each bundle as a new one, or it retains it, or it has no report and the bundle was
live before. -/
theorem served_after_succ {passes : Nat → Inputs} {n : Nat} (h : (plane.after passes n).Reachable)
    (hbundle : (plane.after passes (n + 1)).store.live.bundle? key = some bundle) :
    plane.SynthesizesAt passes n key bundle ∨
      (plane.after passes n).store.live.bundle? key = some bundle ∧
        (plane.RetainsAt passes n key bundle ∨
          ∀ report, (plane.pass passes n).outcome ≠ .ok report) := by
  rcases runPass_cases h.sound (passes n) with
    ⟨specs, index, -, hlist, houtcome, hstore⟩ | ⟨fault, -, houtcome, hstore⟩
  · have hfind : (assemble (plane.after passes n).store.live index specs).bundles.find? key =
        some bundle := by
      rw [after, hstore] at hbundle
      exact hbundle
    obtain ⟨spec, hspec, ⟨hmade, hsynthesized⟩ | ⟨hearlier, hretained, fault, hfailure⟩⟩ :=
      settles_assemble.served_cases hfind
    · exact .inl ⟨specs, index, spec, _, hlist, hspec, hmade, houtcome, hsynthesized, hbundle⟩
    · exact .inr ⟨hearlier, .inl ⟨specs, index, spec, _, fault, hlist, hspec, houtcome, hfailure,
        hretained, hbundle⟩⟩
  · rw [after, hstore] at hbundle
    exact .inr ⟨hbundle, .inr fun report hreport => nomatch houtcome.symm.trans hreport⟩

/-- A live bundle was synthesized by some pass, and each published pass since then has retained
it. -/
theorem exists_synthesizesAt (h : plane.Reachable)
    (hnew : ∀ key, plane.store.live.bundle? key = none) (passes : Nat → Inputs) {n : Nat}
    (hbundle : (plane.after passes n).store.live.bundle? key = some bundle) :
    ∃ p < n, plane.SynthesizesAt passes p key bundle ∧
      ∀ q, p < q → q < n → ∀ report, (plane.pass passes q).outcome = .ok report →
        plane.RetainsAt passes q key bundle := by
  induction n with
  | zero => exact absurd ((hnew key).symm.trans hbundle) nofun
  | succ n ih =>
    rcases served_after_succ (h.after passes n) hbundle with hmade | ⟨hearlier, hkept⟩
    · exact ⟨n, Nat.lt_succ_self n, hmade, fun q hpq hqn => by omega⟩
    · -- the bundle was live before this pass already, and this pass retained it if it published
      obtain ⟨p, hpn, hmade, hretained⟩ := ih hearlier
      refine ⟨p, Nat.lt_succ_of_lt hpn, hmade, fun q hpq hqn report hreport => ?_⟩
      rcases Nat.lt_succ_iff_lt_or_eq.mp hqn with hlt | rfl
      · exact hretained q hpq hlt report hreport
      · exact hkept.resolve_right fun hnone => hnone report hreport

/-- Every bundle that is live after some passes stands under its own key. It was synthesized from
the spec that one of the passes listed under this key, and each published pass since then listed the
key, failed on it and retained the bundle. Any published snapshot without the key is older. -/
theorem bundle_provenance (metrics : Metrics) (passes : Nat → Inputs) {n : Nat}
    (hbundle : (Plane.after { metrics } passes n).store.live.bundle? key = some bundle) :
    bundle.key = key ∧ ∃ p < n, SynthesizesAt { metrics } passes p key bundle ∧
      (∀ q, p < q → q < n → ∀ report, (Plane.pass { metrics } passes q).outcome = .ok report →
        RetainsAt { metrics } passes q key bundle) ∧
      ∀ m < n, ∀ report, (Plane.pass { metrics } passes m).outcome = .ok report →
        (Plane.after { metrics } passes (m + 1)).store.live.bundle? key = none → m < p := by
  have hreachable := Reachable.new metrics
  refine ⟨(hreachable.after passes n).sound.orderly.key_eq hbundle, ?_⟩
  obtain ⟨p, hpn, hmade, hretained⟩ := exists_synthesizesAt hreachable (fun _ => rfl) passes hbundle
  refine ⟨p, hpn, hmade, hretained, fun m hmn report hreport hnone => ?_⟩
  -- from the pass that made it on, each published snapshot has the bundle
  rcases Nat.lt_trichotomy m p with hlt | rfl | hlt
  · exact hlt
  · obtain ⟨_, _, _, _, -, -, -, -, -, hlive⟩ := hmade
    exact absurd (hnone.symm.trans hlive) nofun
  · obtain ⟨_, _, _, _, _, -, -, -, -, -, hlive⟩ := hretained m hlt hmn report hreport
    exact absurd (hnone.symm.trans hlive) nofun

/-- The bundle of a spec whose listener has been emptied goes back to a pass of the run. -/
theorem emptied_listener_provenance :
    let passes : Nat → Inputs := fun n => {
      specs := .ok [{ name := "b", listener := if n = 0 then "l" else "" }], memberships := .ok [] }
    ∃ bundle, (Plane.after {} passes 2).store.live.bundle? ⟨"default", "b"⟩ = some bundle ∧
      ∃ p < 2, SynthesizesAt {} passes p ⟨"default", "b"⟩ bundle := by
  intro passes
  let plane := (Plane.runPass {} (passes 0)).plane
  have hafter : Plane.after {} passes 2 = (plane.runPass (passes 1)).plane := rfl
  have hfirst : plane.store = _ :=
    (runPass_of_list Store.sound_new (rfl : (passes 0).cancelled = none) rfl).2
  have hreachable : plane.Reachable := .pass (.new {}) (passes 0)
  have hsecond := (runPass_of_list hreachable.sound (rfl : (passes 1).cancelled = none) rfl).2
  have hsome : ((Plane.after {} passes 2).store.live.bundle? ⟨"default", "b"⟩).isSome := by
    rw [hafter, hsecond, hfirst]
    decide +kernel
  obtain ⟨bundle, hbundle⟩ := Option.isSome_iff_exists.mp hsome
  obtain ⟨-, p, hp, hmade, -⟩ := bundle_provenance {} passes hbundle
  exact ⟨bundle, hbundle, p, hp, hmade⟩

end Plane

end TrafficPlane
