import TrafficPlane.Pass.Run
import TrafficPlane.Proofs.Assembly
import TrafficPlane.Proofs.Consistency

/-!
# Runs of passes

A pass either publishes what it decided under the next version or leaves the store as it was. It
publishes whenever it is neither cancelled nor left without inputs, provided that the store holds
orderly bundles, and then the store holds orderly bundles again.

## Main definitions

* `Store.Sound`: the live bundles are orderly, and the next version is newer than the live one
* `Store.advance`: the store with the next version of other bundles
* `Plane.after`, `Plane.pass`: the plane after as many passes, and what the next one comes to
* `Plane.Reachable`: passes alone have published into a new store

## Main results

* `orderly_assemble`: bundles that a pass decides on are orderly if those before were
* `Plane.runPass_cases`: what a pass does to a sound store
* `Plane.Reachable.sound`: stores that only passes have published into are sound
* `Plane.consistent_after`: no run of passes makes an inconsistent snapshot or an internal fault
-/

namespace TrafficPlane

variable {plane : Plane} {inputs : Inputs} {specs : KeyMap RoutingSpec} {index : MembershipIndex}
  {previous : Snapshot} {report : Report} {fault : Fault}

/-! ### Bundles that a pass decides on -/

/-- What a pass decides on is orderly if the bundles before were. -/
theorem orderly_assemble (hkeys : ∀ key spec, specs.find? key = some spec → spec.key = key)
    (h : previous.bundles.Orderly) : (assemble previous index specs).bundles.Orderly := by
  have hsettles : (assemble previous index specs).Settles previous index specs.entries :=
    settles_assemble
  constructor
  -- what holds of each bundle alone holds of the new ones by synthesis and of the kept ones before
  case key_eq =>
    intro key bundle hfind
    obtain ⟨spec, hspec, ⟨hmade, -⟩ | ⟨hearlier, -⟩⟩ := hsettles.served_cases hfind
    · exact (Bundle.key_of_synthesize hmade).trans (hkeys key spec hspec)
    · exact h.key_eq hearlier
  case selfContained =>
    intro key bundle hfind
    obtain ⟨spec, -, ⟨hmade, -⟩ | ⟨hearlier, -⟩⟩ := hsettles.served_cases hfind
    · exact Bundle.selfContained_of_synthesize hmade
    · exact h.selfContained hearlier
  case listener_inj =>
    intro key bundle key' bundle' hfind hfind' hname
    exact hsettles.listener_inj hfind hfind' hname

/-- The specs that are reported as removed are those without a bundle among the specs that had
one. -/
theorem Tally.removed_eq (tally : Tally) (h : previous.bundles.Orderly) (version : Nat) :
    (tally.report previous version).removed =
      previous.bundles.keys.filter (· ∉ tally.bundles.keys) := by
  have hkeys : previous.bundles.values.map (·.key) = previous.bundles.keys := by
    rw [KeyMap.values, KeyMap.keys, List.map_map]
    exact List.map_congr_left fun entry hentry => h.key_eq (KeyMap.mem_entries_iff.mp hentry)
  rw [Tally.report, hkeys]
  refine List.filter_congr fun key _ => ?_
  rw [Bool.eq_iff_iff, Bool.not_eq_true', Bool.eq_false_iff, ne_eq, KeyMap.has_iff,
    decide_eq_true_eq, KeyMap.mem_keys_iff]

theorem mem_removed_iff (h : previous.bundles.Orderly) {tally : Tally} {version : Nat}
    {key : QualifiedName} : key ∈ (tally.report previous version).removed ↔
      (∃ bundle, previous.bundle? key = some bundle) ∧ tally.bundles.find? key = none := by
  rw [tally.removed_eq h, List.mem_filter, KeyMap.mem_keys_iff, decide_eq_true_eq,
    KeyMap.mem_keys_iff, not_exists, Option.eq_none_iff_forall_ne_some]
  rfl

/-- The resources of a snapshot are those of its bundles. -/
theorem Snapshot.resourcesByUrl_eq_of_bundles_eq {snapshot snapshot' : Snapshot}
    (h : snapshot.bundles = snapshot'.bundles) (url : String) :
    snapshot.resourcesByUrl url = snapshot'.resourcesByUrl url := by
  have hresources : snapshot.resources = snapshot'.resources := by
    funext type
    rw [resources, resources, h]
  rw [resourcesByUrl, resourcesByUrl, hresources]

/-- Inputs are listed when both sources give theirs, and then by name. -/
theorem Inputs.list_eq_ok_iff : inputs.list = .ok (specs, index) ↔
    ∃ listed memberships, inputs.specs = .ok listed ∧ inputs.memberships = .ok memberships ∧
      specs = KeyMap.ofList RoutingSpec.key listed ∧ index = MembershipIndex.ofList memberships := by
  rw [Inputs.list]
  cases inputs.specs with
  | error fault => simp
  | ok listed =>
    cases inputs.memberships with
    | error fault => simp
    | ok memberships => simp [eq_comm]

/-- The listed specs stand under their own names. -/
theorem Inputs.key_of_list (h : inputs.list = .ok (specs, index)) (key : QualifiedName)
    (spec : RoutingSpec) (hspec : specs.find? key = some spec) : spec.key = key := by
  obtain ⟨listed, memberships, -, -, rfl, -⟩ := Inputs.list_eq_ok_iff.mp h
  exact KeyMap.keyOf_eq_of_find?_ofList hspec

/-- A listing fails with the fault of the specs or with that of the memberships. -/
theorem Inputs.fault_of_list (h : inputs.list = .error fault) :
    inputs.specs = .error fault ∨ inputs.memberships = .error fault := by
  rw [Inputs.list] at h
  split at h
  · rename_i hspecs
    exact .inl (hspecs.trans (congrArg _ (Except.error.inj h)))
  · rename_i hmemberships
    exact .inr (hmemberships.trans (congrArg _ (Except.error.inj h)))
  · cases h

/-! ### Sound stores -/

/-- The live bundles are orderly, and a version that is handed out is newer than the live one. -/
structure Store.Sound (store : Store) : Prop where
  orderly : store.live.bundles.Orderly
  version_lt : store.live.version < store.nextVersion

namespace Store

/-- The store with these bundles live, under the next version. -/
def advance (store : Store) (bundles : KeyMap Bundle) : Store where
  live := { version := store.nextVersion, bundles }
  nextVersion := store.nextVersion + 1
  announced := store.nextVersion

theorem sound_new : ({} : Store).Sound where
  orderly := by constructor <;> simp [Snapshot.empty]
  version_lt := Nat.zero_lt_one

theorem Sound.advance {store : Store} {bundles : KeyMap Bundle} (h : bundles.Orderly) :
    (store.advance bundles).Sound where
  orderly := h
  version_lt := Nat.lt_succ_self store.nextVersion

/-- A sound store takes any orderly bundles under the version that it handed out. -/
theorem Sound.publish_eq {store : Store} {bundles : KeyMap Bundle} (h : store.Sound)
    (hbundles : bundles.Orderly) :
    store.reserve.2.publish { version := store.reserve.1, bundles } =
      .ok (store.advance bundles) := by
  have hversion : ¬ store.nextVersion ≤ store.live.version := Nat.not_le.mpr h.version_lt
  have haccepts : store.reserve.2.accepts { version := store.reserve.1, bundles } = .ok () := by
    rw [Store.accepts, Snapshot.check_of_orderly hbundles]
    exact if_neg hversion
  rw [Store.publish, haccepts]
  rfl

end Store

/-! ### One pass -/

namespace Plane

/-- Orderly bundles are published into a sound store. -/
theorem publish_eq (plane : Plane) (h : plane.store.Sound) {tally : Tally}
    (hbundles : tally.bundles.Orderly) :
    ∃ metrics, plane.publish tally =
      (.ok (tally.report plane.store.live plane.store.nextVersion),
        { store := plane.store.advance tally.bundles, metrics }) := by
  rw [publish]
  dsimp only
  rw [h.publish_eq hbundles]
  exact ⟨_, rfl⟩

/-- A pass over a sound store that lists its inputs and is not cancelled publishes what it decides. -/
theorem runPass_of_list (h : plane.store.Sound) (hcancelled : inputs.cancelled = none)
    (hlist : inputs.list = .ok (specs, index)) :
    (plane.runPass inputs).outcome = .ok ((assemble plane.store.live index specs).report
        plane.store.live plane.store.nextVersion) ∧
      (plane.runPass inputs).plane.store =
        plane.store.advance (assemble plane.store.live index specs).bundles := by
  change (plane.runUncounted inputs).outcome = _ ∧ (plane.runUncounted inputs).plane.store = _
  have horderly : (assemble plane.store.live index specs).bundles.Orderly :=
    orderly_assemble (Inputs.key_of_list hlist) h.orderly
  -- failures are counted before the bundles are published, which leaves the store as it is
  obtain ⟨metrics, hpublish⟩ := publish_eq
    (plane.countFailures (assemble plane.store.live index specs)) h horderly
  rw [runUncounted, if_neg (by simp [hcancelled]), hlist]
  dsimp only
  rw [if_neg (by simp [hcancelled]), runListed]
  rw [if_neg (by simp [hcancelled]), hpublish]
  exact ⟨rfl, rfl⟩

/-- A pass over a sound store publishes what it decides, or it was cancelled or left without inputs
and then changes nothing. -/
theorem runPass_cases (h : plane.store.Sound) (inputs : Inputs) :
    (∃ specs index, inputs.cancelled = none ∧ inputs.list = .ok (specs, index) ∧
      (plane.runPass inputs).outcome = .ok ((assemble plane.store.live index specs).report
        plane.store.live plane.store.nextVersion) ∧
      (plane.runPass inputs).plane.store =
        plane.store.advance (assemble plane.store.live index specs).bundles) ∨
    ∃ fault, (fault = .cancelled ∨ inputs.list = .error fault) ∧
      (plane.runPass inputs).outcome = .error fault ∧
      (plane.runPass inputs).plane.store = plane.store := by
  have hrun : (plane.runPass inputs).outcome = (plane.runUncounted inputs).outcome ∧
      (plane.runPass inputs).plane.store = (plane.runUncounted inputs).plane.store := ⟨rfl, rfl⟩
  cases hlist : inputs.list with
  | error fault =>
    rw [hrun.1, hrun.2, runUncounted, hlist]
    by_cases hstart : inputs.cancelled = some .beforeStart
    · rw [if_pos hstart]
      exact .inr ⟨.cancelled, .inl rfl, rfl, rfl⟩
    · rw [if_neg hstart]
      exact .inr ⟨fault, .inr rfl, rfl, rfl⟩
  | ok listed =>
    obtain ⟨specs, index⟩ := listed
    cases hcancelled : inputs.cancelled with
    | none =>
      exact .inl ⟨specs, index, rfl, rfl, runPass_of_list h hcancelled hlist⟩
    | some point =>
      -- wherever the pass is cancelled, it ends there before anything is published
      refine .inr ⟨.cancelled, .inl rfl, ?_⟩
      rw [hrun.1, hrun.2, runUncounted, hlist, hcancelled]
      cases point <;> exact ⟨rfl, rfl⟩

/-- A pass over a sound store that has a report has published what it decided. -/
theorem runPass_of_report (h : plane.store.Sound) (hreport : (plane.runPass inputs).outcome = .ok report) :
    ∃ specs index, inputs.cancelled = none ∧ inputs.list = .ok (specs, index) ∧
      report = (assemble plane.store.live index specs).report plane.store.live
        plane.store.nextVersion ∧
      (plane.runPass inputs).plane.store =
        plane.store.advance (assemble plane.store.live index specs).bundles := by
  rcases runPass_cases h inputs with
    ⟨specs, index, hcancelled, hlist, houtcome, hstore⟩ | ⟨fault, -, houtcome, -⟩
  · exact ⟨specs, index, hcancelled, hlist, Except.ok.inj (hreport.symm.trans houtcome), hstore⟩
  · exact absurd (hreport.symm.trans houtcome) nofun

/-- What a pass with a report publishes and reports settles the specs that it listed. -/
theorem settles_of_report (h : plane.store.Sound)
    (hreport : (plane.runPass inputs).outcome = .ok report) :
    ∃ specs index, ∃ tally : Tally, inputs.list = .ok (specs, index) ∧
      tally.Settles plane.store.live index specs.entries ∧
      report = tally.report plane.store.live plane.store.nextVersion ∧
      (plane.runPass inputs).plane.store = plane.store.advance tally.bundles := by
  obtain ⟨specs, index, -, hlist, hpublished, hstore⟩ := runPass_of_report h hreport
  exact ⟨specs, index, _, hlist, settles_assemble, hpublished, hstore⟩

theorem sound_runPass (h : plane.store.Sound) (inputs : Inputs) :
    (plane.runPass inputs).plane.store.Sound := by
  rcases runPass_cases h inputs with ⟨specs, index, -, hlist, -, hstore⟩ | ⟨fault, -, -, hstore⟩
  · rw [hstore]
    exact .advance (orderly_assemble (Inputs.key_of_list hlist) h.orderly)
  · rw [hstore]
    exact h

/-! ### Many passes -/

/-- The plane after as many passes of a run. -/
def after (plane : Plane) (passes : Nat → Inputs) : Nat → Plane
  | 0 => plane
  | n + 1 => ((plane.after passes n).runPass (passes n)).plane

/-- What the pass that follows as many others comes to. -/
def pass (plane : Plane) (passes : Nat → Inputs) (n : Nat) : PassResult :=
  (plane.after passes n).runPass (passes n)

/-- The store was new once, and since then passes alone have published into it. -/
inductive Reachable : Plane → Prop
  | new (metrics : Metrics) : Reachable { metrics }
  | pass {plane : Plane} (h : Reachable plane) (inputs : Inputs) :
    Reachable (plane.runPass inputs).plane

theorem Reachable.after (h : plane.Reachable) (passes : Nat → Inputs) (n : Nat) :
    (plane.after passes n).Reachable := by
  induction n with
  | zero => exact h
  | succ n ih => exact ih.pass (passes n)

theorem Reachable.sound (h : plane.Reachable) : plane.store.Sound := by
  induction h with
  | new metrics => exact Store.sound_new
  | pass _ inputs ih => exact sound_runPass ih inputs

/-- A pass hands out one version at most. -/
theorem nextVersion_runPass_le (h : plane.store.Sound) (inputs : Inputs) :
    (plane.runPass inputs).plane.store.nextVersion ≤ plane.store.nextVersion + 1 := by
  rcases runPass_cases h inputs with ⟨specs, index, -, -, -, hstore⟩ | ⟨fault, -, -, hstore⟩
  · rw [hstore]
    exact Nat.le_refl _
  · rw [hstore]
    exact Nat.le_succ _

theorem nextVersion_after_le (h : plane.Reachable) (passes : Nat → Inputs) (n : Nat) :
    (plane.after passes n).store.nextVersion ≤ plane.store.nextVersion + n := by
  induction n with
  | zero => exact Nat.le_refl _
  | succ n ih =>
    have hstep := nextVersion_runPass_le (h.after passes n).sound (passes n)
    calc (plane.after passes (n + 1)).store.nextVersion
        ≤ (plane.after passes n).store.nextVersion + 1 := hstep
      _ ≤ plane.store.nextVersion + n + 1 := Nat.add_le_add_right ih 1

/-- However many passes run, and whatever they list or when they are cancelled: the live snapshot
passes its check, the next pass has no internal fault unless a source reports one, and the store
accepts what the next pass decides on, whatever that pass lists. Versions do not outnumber passes. -/
theorem consistent_after (metrics : Metrics) (passes : Nat → Inputs) (n : Nat) :
    (Plane.after { metrics } passes n).store.live.check = .ok () ∧
    (∀ cause, (Plane.pass { metrics } passes n).outcome = .error (.internal cause) →
      (passes n).specs = .error (.internal cause) ∨
        (passes n).memberships = .error (.internal cause)) ∧
    (∀ specs memberships,
      let store := (Plane.after { metrics } passes n).store
      let tally := assemble store.live (.ofList memberships) (.ofList RoutingSpec.key specs)
      store.reserve.2.publish { version := store.reserve.1, bundles := tally.bundles } =
        .ok (store.advance tally.bundles)) ∧
    (Plane.after { metrics } passes n).store.nextVersion ≤ n + 1 := by
  have hreachable := (Reachable.new metrics).after passes n
  have hsound := hreachable.sound
  refine ⟨Snapshot.check_of_orderly hsound.orderly _, fun cause hcause => ?_,
    fun specs memberships => ?_, ?_⟩
  · rcases runPass_cases hsound (passes n) with
      ⟨specs, index, -, -, houtcome, -⟩ | ⟨fault, hfault, houtcome, -⟩
    · exact absurd (hcause.symm.trans houtcome) nofun
    · obtain rfl := Except.error.inj (hcause.symm.trans houtcome)
      rcases hfault with hcancelled | hlist
      · exact absurd hcancelled nofun
      · exact Inputs.fault_of_list hlist
  · exact hsound.publish_eq (orderly_assemble
      (fun _ _ hspec => KeyMap.keyOf_eq_of_find?_ofList hspec) hsound.orderly)
  · rw [Nat.add_comm]
    exact nextVersion_after_le (Reachable.new metrics) passes n

end Plane

end TrafficPlane
