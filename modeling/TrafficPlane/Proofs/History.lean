import Mathlib.Data.Nat.Count
import TrafficPlane.Proofs.Accounting
import TrafficPlane.Proofs.Course

/-!
# What passes remember

A pass looks at the bundles before it only for specs that have no new one. So once all specs have new
bundles, nothing is left of what was served before. Nor is anything left of passes that published
nothing: the next version is that of the last pass that did, and one more.

## Main definitions

* `History`: a run of passes over a new store
* `History.ofInputs`: the run of passes that make bundles in turn
* `History.published`: how many passes have published
* `Store.AtVersion`: so many passes have published into the store

## Main results

* `Tally.Settles.of_clean`: decisions that are all for new bundles do not depend on earlier ones
* `Plane.clean_pass_forgets`: after a pass without failures the past makes no difference
* `History.exists_reachable`: passes that make their bundles in turn lead to the same stores
* `History.atVersion`: a store counts the passes that have published into it
* `History.versions_without_gaps`: passes that publish are numbered, and others leave no trace
-/

namespace TrafficPlane

variable {plane plane' : Plane} {previous : Snapshot} {index : MembershipIndex}
  {specs : KeyMap RoutingSpec} {tally : Tally} {key : QualifiedName} {spec : RoutingSpec}
  {sources : Sources} {cancelled : Bool} {outcome : Except Fault Report} {store : Store} {k : Nat}

/-! ### Passes without failures -/

namespace Tally.Settles

/-- Without failures all specs are served with their new bundles. -/
theorem exists_fresh_of_clean (h : tally.Settles previous index specs.entries)
    (hclean : tally.failures = []) (hspec : specs.find? key = some spec) :
    ∃ bundle, tally.decision previous index (key, spec) = .fresh bundle := by
  have hnone : (tally.decision previous index (key, spec)).failure? key = none := by
    refine Option.eq_none_iff_forall_ne_some.mpr fun failure hfailure => ?_
    have hmem : failure ∈ tally.failures := h.mem_failures_iff.mpr ⟨key, spec, hspec, hfailure⟩
    exact absurd (hclean ▸ hmem) List.not_mem_nil
  cases hdecision : tally.decision previous index (key, spec) with
  | fresh bundle => exact ⟨bundle, rfl⟩
  | kept fault bundle => exact absurd (hdecision ▸ hnone) nofun
  | lost fault => exact absurd (hdecision ▸ hnone) nofun

/-- Without failures it makes no difference which bundles were served before. -/
theorem of_clean (h : tally.Settles previous index specs.entries) (hclean : tally.failures = [])
    (previous' : Snapshot) : tally.Settles previous' index specs.entries := by
  refine h.of_decision_eq fun key spec hspec => ?_
  obtain ⟨bundle, hfresh⟩ := h.exists_fresh_of_clean hclean hspec
  rw [hfresh]
  -- a new bundle is served because it was made and is in no conflict, whatever there was before
  exact Decision.make_eq_fresh_iff.mpr (Decision.make_eq_fresh_iff.mp hfresh)

end Tally.Settles

namespace Plane

/-- If a pass publishes these lists without failures, a pass over the same lists publishes the same
bundles and resources, without failures either, from whatever other passes have left behind. -/
theorem clean_pass_forgets (h : plane.Reachable) (h' : plane'.Reachable)
    {listed : List RoutingSpec} {memberships : List Membership} {report : Report} :
    let inputs : Inputs := { specs := .ok listed, memberships := .ok memberships }
    let first := plane.runPass inputs
    let second := plane'.runPass inputs
    first.outcome = .ok report → report.failures = [] →
      ∃ report', second.outcome = .ok report' ∧ report'.failures = [] ∧ report'.retained = [] ∧
        report'.synthesized = report.synthesized ∧
        second.plane.store.live.bundles = first.plane.store.live.bundles ∧
        ∀ url, second.plane.store.live.resourcesByUrl url =
          first.plane.store.live.resourcesByUrl url := by
  intro inputs first second hreport hclean
  set specs := KeyMap.ofList RoutingSpec.key listed
  set index := MembershipIndex.ofList memberships
  set tally := assemble plane.store.live index specs with htally
  set tally' := assemble plane'.store.live index specs with htally'
  obtain ⟨hpublished, hstore⟩ : first.outcome = .ok (tally.report plane.store.live
      plane.store.nextVersion) ∧ first.plane.store = plane.store.advance tally.bundles :=
    runPass_of_list h.sound rfl rfl
  obtain ⟨houtcome, hstore'⟩ : second.outcome = .ok (tally'.report plane'.store.live
      plane'.store.nextVersion) ∧ second.plane.store = plane'.store.advance tally'.bundles :=
    runPass_of_list h'.sound rfl rfl
  obtain rfl := Except.ok.inj (hreport.symm.trans hpublished)
  -- the first tally settles the specs after the other history too, so both tallies are the same
  have hsettles : tally.Settles plane'.store.live index specs.entries :=
    settles_assemble.of_clean hclean plane'.store.live
  obtain ⟨hbundles, hsynthesized, hretained, hfailures⟩ := hsettles.unique settles_assemble
  have hlive : second.plane.store.live.bundles = first.plane.store.live.bundles := by
    rw [hstore, hstore']
    exact hbundles.symm
  refine ⟨_, houtcome, hfailures.symm.trans hclean, ?_, hsynthesized.symm, hlive, fun url => ?_⟩
  · have hnone : tally.failures = [] := hclean
    calc tally'.retained = tally.retained := hretained.symm
      _ = (tally.failures.filter (·.retained)).map (·.spec) := hsettles.retained_eq_failures
      _ = [] := by rw [hnone]; rfl
  · exact Snapshot.resourcesByUrl_eq_of_bundles_eq hlive url

/-- A bundle that was kept in a pass with failures, and whose listener another spec claims by now, is
forgotten with the next pass that has none. -/
theorem clean_pass_forgets_kept_bundle :
    let first : Inputs := { specs := .ok [{ name := "a", listener := "l" }], memberships := .ok [] }
    let second : Inputs := {
      specs := .ok [{ name := "a", listener := "" }, { name := "b", listener := "l" }]
      memberships := .ok [] }
    let inputs : Inputs := {
      specs := .ok [{ name := "a", listener := "m" }, { name := "b", listener := "l" }]
      memberships := .ok [] }
    let plane := ((Plane.runPass {} first).plane.runPass second).plane
    (plane.store.live.bundle? ⟨"default", "a"⟩).map (·.listener.name) = some "l" ∧
      plane.store.live.bundle? ⟨"default", "b"⟩ = none ∧
      ∃ report, (plane.runPass inputs).outcome = .ok report ∧ report.failures = [] ∧
        (plane.runPass inputs).plane.store.live.bundles =
          (Plane.runPass {} inputs).plane.store.live.bundles := by
  intro first second inputs plane
  have hreachable : (Plane.runPass {} first).plane.Reachable := .pass (.new {}) first
  have hfirst : (Plane.runPass {} first).plane.store = _ :=
    (runPass_of_list Store.sound_new rfl rfl).2
  have hsecond : plane.store = _ := (runPass_of_list hreachable.sound rfl rfl).2
  rw [hfirst] at hsecond
  have hreport := (runPass_of_list (Reachable.new {}).sound (rfl : inputs.cancelled = none) rfl).1
  obtain ⟨report, houtcome, hclean, -, -, hbundles, -⟩ :=
    clean_pass_forgets (.new {}) (hreachable.pass second) hreport (by decide +kernel)
  refine ⟨?_, ?_, report, houtcome, hclean, hbundles⟩
  · rw [hsecond]
    decide +kernel
  · have hnone : ¬ (plane.store.live.bundle? ⟨"default", "b"⟩).isSome := by
      rw [hsecond]
      decide +kernel
    simpa using hnone

end Plane

/-! ### Versions -/

/-- So many passes have published into the store, and nothing else has. -/
structure Store.AtVersion (store : Store) (k : Nat) : Prop where
  live_eq : store.live.version = k
  announced_eq : store.announced = k
  nextVersion_eq : store.nextVersion = k + 1

theorem Store.atVersion_new : ({} : Store).AtVersion 0 where
  live_eq := rfl
  announced_eq := rfl
  nextVersion_eq := rfl

theorem Store.AtVersion.advance (h : store.AtVersion k) (bundles : KeyMap Bundle) :
    (store.advance bundles).AtVersion (k + 1) where
  live_eq := h.nextVersion_eq
  announced_eq := h.nextVersion_eq
  nextVersion_eq := congrArg (· + 1) h.nextVersion_eq

namespace Plane.Leads

theorem sound (h : plane.Leads sources cancelled outcome store) (hsound : plane.store.Sound) :
    store.Sound := by
  rcases h with ⟨tally, hdecide, -, rfl⟩ | ⟨fault, -, rfl, -⟩
  · exact .advance (hdecide.orderly hsound)
  · exact hsound

/-- A pass that publishes counts as one more, any other does not count. -/
theorem atVersion (h : plane.Leads sources cancelled outcome store) (hk : plane.store.AtVersion k) :
    store.AtVersion (if outcome.isOk then k + 1 else k) := by
  rcases h with ⟨tally, -, rfl, rfl⟩ | ⟨fault, rfl, rfl, -⟩
  · exact hk.advance tally.bundles
  · exact hk

end Plane.Leads

/-! ### Runs -/

/-- A run of passes over a new store into which nothing else publishes. -/
structure History where
  planes : Nat → Plane
  parallelism : Nat → Nat
  sources : Nat → Sources
  /-- Somebody has asked for the pass to be cancelled. -/
  cancelled : Nat → Bool
  outcomes : Nat → Except Fault Report
  new : (planes 0).store = {}
  passesTo : ∀ n, (planes n).PassesTo (parallelism n) (sources n) (cancelled n) (outcomes n)
    (planes (n + 1))

namespace History

/-- The run of the passes that make their bundles in turn. -/
def ofInputs (metrics : Metrics) (passes : Nat → Inputs) : History where
  planes := Plane.after { metrics } passes
  parallelism _ := 1
  sources n := (passes n).sources
  cancelled n := (passes n).cancelled.isSome
  outcomes n := (Plane.pass { metrics } passes n).outcome
  new := rfl
  passesTo n := ⟨_, (Plane.after { metrics } passes n).passesWith_runPass 1 (passes n)⟩

variable (history : History)

/-- How many of the first passes have published. -/
def published (n : Nat) : Nat :=
  Nat.count (fun m => (history.outcomes m).isOk) n

theorem published_le (n : Nat) : history.published n ≤ n :=
  Nat.count_le _

theorem published_succ (n : Nat) : history.published (n + 1) =
    if (history.outcomes n).isOk then history.published n + 1 else history.published n := by
  rw [published, Nat.count_succ]
  split_ifs <;> rfl

theorem sound (n : Nat) : (history.planes n).store.Sound := by
  induction n with
  | zero => exact history.new ▸ Store.sound_new
  | succ n ih => exact (Plane.leads_of_passesTo ih (history.passesTo n)).sound ih

theorem leads (n : Nat) : (history.planes n).Leads (history.sources n) (history.cancelled n)
    (history.outcomes n) (history.planes (n + 1)).store :=
  Plane.leads_of_passesTo (history.sound n) (history.passesTo n)

/-- Passes that make their bundles in turn lead to the same stores. -/
theorem exists_reachable (n : Nat) :
    ∃ plane : Plane, plane.Reachable ∧ plane.store = (history.planes n).store := by
  induction n with
  | zero => exact ⟨{}, .new {}, history.new.symm⟩
  | succ n ih =>
    obtain ⟨plane, hreachable, hstore⟩ := ih
    rcases history.leads n with ⟨tally, hdecide, -, hafter⟩ | ⟨fault, -, hafter, -⟩
    · -- the pass without tasks decides and publishes the same
      obtain ⟨specs, index, hlist, rfl⟩ := hdecide
      have hpublished := (Plane.runPass_of_list hreachable.sound rfl hlist).2
      refine ⟨_, hreachable.pass (history.sources n).inputs, ?_⟩
      rw [hpublished, hafter, hstore]
    · exact ⟨plane, hreachable, hstore.trans hafter.symm⟩

/-- A store counts the passes that have published into it. -/
theorem atVersion (n : Nat) : (history.planes n).store.AtVersion (history.published n) := by
  induction n with
  | zero => exact history.new ▸ Store.atVersion_new
  | succ n ih =>
    rw [published_succ]
    exact (history.leads n).atVersion ih

/-- A pass that fails, because it was cancelled or a source failed, leaves its store as it was: the
live snapshot, the announced version and the version that is handed out next. A pass that publishes
does so under the number of passes that have published so far, itself among them, whatever passes lie
in between. A pass that is cancelled before it looks out for that for the last time can end, and only
with a failure. -/
theorem versions_without_gaps (n : Nat) :
    let before := (history.planes n).store
    let after := (history.planes (n + 1)).store
    let Reaches := Course.Reaches (history.parallelism n) (history.sources n)
    history.published n ≤ n ∧
    (∀ fault, history.outcomes n = .error fault → after = before ∧
      (fault = .cancelled ∧ history.cancelled n ∨ (history.sources n).specs = .error fault ∨
        (history.sources n).memberships = .error fault)) ∧
    (∀ report, history.outcomes n = .ok report →
      history.published (n + 1) = history.published n + 1 ∧
      report.version = history.published (n + 1) ∧
      after.AtVersion (history.published (n + 1))) ∧
    ∀ course, Reaches { plane := history.planes n } course → course.cancelled →
      course.stage.Cancellable →
        (∃ last outcome, Reaches course last ∧ last.stage = .ended outcome) ∧
        ∀ last outcome, Reaches course last → last.stage = .ended outcome →
          (∃ fault, outcome = .error fault) ∧ last.plane.store = before := by
  intro before after Reaches
  have hversion := history.atVersion n
  refine ⟨history.published_le n, fun fault hfault => ?_, fun report hreport => ?_, ?_⟩
  · rcases history.leads n with ⟨tally, -, houtcome, -⟩ | ⟨fault', houtcome, hstore, hcause⟩
    · exact absurd (hfault.symm.trans houtcome) nofun
    · obtain rfl := Except.error.inj (hfault.symm.trans houtcome)
      exact ⟨hstore, hcause⟩
  · have hcount : history.published (n + 1) = history.published n + 1 := by
      rw [published_succ, hreport]
      rfl
    rcases history.leads n with ⟨tally, -, houtcome, -⟩ | ⟨fault, houtcome, -, -⟩
    · obtain rfl := Except.ok.inj (hreport.symm.trans houtcome)
      refine ⟨hcount, ?_, history.atVersion (n + 1)⟩
      rw [hcount]
      exact hversion.nextVersion_eq
    · exact absurd (hreport.symm.trans houtcome) nofun
  · intro course hcourse hcancelled hcancellable
    obtain ⟨last, hlast, hended⟩ := Course.exists_ended hcancelled hcancellable
    refine ⟨⟨last, _, hlast, hended⟩, fun last outcome hlast hended => ?_⟩
    have hdoomed : course.Doomed := .inl ⟨hcancelled, hcancellable⟩
    obtain ⟨fault, rfl⟩ := (hlast.doomed hdoomed).exists_fault hended
    refine ⟨⟨fault, rfl⟩, ?_⟩
    have hwhole : Course.Reaches (history.parallelism n) (history.sources n)
        { plane := history.planes n } last := hcourse.trans hlast
    exact hwhole.store_eq_of_error (history.sound n) hended

/-- Of five passes the third and the fifth publish, under the first and the second version. -/
theorem versions_without_gaps_of_five_passes :
    let lists : Inputs := { specs := .ok [], memberships := .ok [] }
    let passes : Nat → Inputs := fun n => match n with
      | 0 => { lists with cancelled := some .beforePublishing }
      | 1 => { lists with memberships := .error .cancelled }
      | 3 => { lists with cancelled := some .underWay }
      | _ => lists
    let history := ofInputs {} passes
    (List.range 5).map (fun n => (history.outcomes n).isOk) = [false, false, true, false, true] ∧
      (history.planes 4).store.AtVersion 1 ∧
      ∃ report, history.outcomes 4 = .ok report ∧ report.version = 2 ∧
        (history.planes 5).store.AtVersion 2 := by
  intro lists passes history
  have hlisted : (passes 4).list = .ok (.empty, MembershipIndex.ofList []) := rfl
  have hreport : history.outcomes 4 = .ok _ := (Plane.runPass_of_list (history.sound 4) rfl hlisted).1
  obtain ⟨hcount, hversion, hafter⟩ := (history.versions_without_gaps 4).2.2.1 _ hreport
  have hpublished : history.published 4 = 1 := by decide +kernel
  rw [hcount, hpublished] at hversion hafter
  exact ⟨by decide +kernel, hpublished ▸ history.atVersion 4, _, hreport, hversion, hafter⟩

end History

end TrafficPlane
