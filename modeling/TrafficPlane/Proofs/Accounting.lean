import TrafficPlane.Proofs.Run

/-!
# Reports that balance

A pass comes to one of three decisions on each listed spec and writes it down in several places: the
bundles that are served, the lists of its report, and the failures with a mark for what is still
served. These places never disagree, whatever mixture of decisions a pass comes to.

## Main definitions

* `Report.Balances`: a report accounts for the listed specs and for the bundles that are served

## Main results

* `Decision.map_spec_failures`, `Decision.map_spec_retained`: what failures tell of decisions
* `Tally.Settles.mem_keys_iff`: the specs that are served are those that a tally says are
* `Plane.report_balances`: the report of a published pass balances
-/

namespace TrafficPlane

/-- A report accounts for the specs that were listed, for the bundles that are live, and for those
that were live before. -/
structure Report.Balances (report : Report) (listed : List RoutingSpec) (index : MembershipIndex)
    (previous live : Snapshot) : Prop where
  /-- Each listed key, counted once, is either synthesized or failed, and nothing else is. -/
  listed_perm : (report.synthesized ++ report.failures.map (·.spec)).Perm
    (listed.map RoutingSpec.key).dedup
  retained_eq : report.retained = (report.failures.filter (·.retained)).map (·.spec)
  /-- Each key with a live bundle is either synthesized or retained, and all of these have one. -/
  served_perm : (report.synthesized ++ report.retained).Perm live.bundles.keys
  removed_eq : report.removed = previous.bundles.keys.filter (· ∉ live.bundles.keys)
  synthesized_ascending : report.synthesized.Pairwise (· < ·)
  retained_ascending : report.retained.Pairwise (· < ·)
  removed_ascending : report.removed.Pairwise (· < ·)
  failures_ascending : (report.failures.map (·.spec)).Pairwise (· < ·)
  /-- A synthesized key has the bundle that synthesis makes of the last spec listed under it. -/
  bundle_synthesized : ∀ key ∈ report.synthesized, ∃ spec bundle,
    (listed.filter (·.key = key)).getLast? = some spec ∧
      Bundle.synthesize spec index = .ok bundle ∧ live.bundle? key = some bundle
  /-- A retained key has the bundle that it had before. -/
  bundle_retained : ∀ key ∈ report.retained, ∃ bundle,
    previous.bundle? key = some bundle ∧ live.bundle? key = some bundle

variable {previous : Snapshot} {index : MembershipIndex} {specs : KeyMap RoutingSpec}
  {tally : Tally} {key : QualifiedName}

/-! ### What failures tell of decisions -/

namespace Decision

variable {α : Type} (decide : QualifiedName × α → Decision) (listed : List (QualifiedName × α))

/-- There is one failure for each spec that is not served with a new bundle. -/
theorem map_spec_failures :
    (listed.filterMap fun entry => (decide entry).failure? entry.1).map (·.spec) =
      (listed.filter fun entry => !(decide entry).isFresh).map (·.1) := by
  induction listed with
  | nil => rfl
  | cons entry rest ih =>
    rw [List.filterMap_cons, List.filter_cons]
    cases hdecision : decide entry with
    | fresh bundle => exact ih
    | kept fault bundle => exact congrArg (entry.1 :: ·) ih
    | lost fault => exact congrArg (entry.1 :: ·) ih

/-- The failures of specs that are still served are marked. -/
theorem map_spec_retained :
    ((listed.filterMap fun entry => (decide entry).failure? entry.1).filter (·.retained)).map
        (·.spec) =
      (listed.filter fun entry => (decide entry).isKept).map (·.1) := by
  induction listed with
  | nil => rfl
  | cons entry rest ih =>
    rw [List.filterMap_cons, List.filter_cons]
    cases hdecision : decide entry with
    | fresh bundle => exact ih
    | kept fault bundle => exact congrArg (entry.1 :: ·) ih
    | lost fault => exact ih

end Decision

/-! ### What a tally comes to -/

namespace Tally.Settles

variable (h : tally.Settles previous index specs.entries)

include h

theorem failures_map_spec : tally.failures.map (·.spec) =
    (specs.entries.filter fun entry =>
      !(tally.decision previous index entry).isFresh).map (·.1) := by
  rw [h.failures_eq, Decision.map_spec_failures]

theorem retained_eq_failures :
    tally.retained = (tally.failures.filter (·.retained)).map (·.spec) := by
  rw [h.retained_eq, h.failures_eq, Decision.map_spec_retained]

/-- Each listed spec is either synthesized or failed. -/
theorem synthesized_append_failures_perm :
    (tally.synthesized ++ tally.failures.map (·.spec)).Perm specs.keys := by
  rw [h.synthesized_eq, h.failures_map_spec, ← List.map_append]
  exact (List.filter_append_perm _ specs.entries).map _

theorem synthesized_ascending : tally.synthesized.Pairwise (· < ·) := by
  rw [h.synthesized_eq]
  exact specs.ascending_names _

theorem retained_ascending : tally.retained.Pairwise (· < ·) := by
  rw [h.retained_eq]
  exact specs.ascending_names _

theorem failures_ascending : (tally.failures.map (·.spec)).Pairwise (· < ·) := by
  rw [h.failures_map_spec]
  exact specs.ascending_names _

/-- A synthesized spec is served with its new bundle. -/
theorem exists_of_mem_synthesized (hkey : key ∈ tally.synthesized) :
    ∃ spec bundle, specs.find? key = some spec ∧ Bundle.synthesize spec index = .ok bundle ∧
      tally.bundles.find? key = some bundle := by
  obtain ⟨spec, hspec, hfresh⟩ := h.mem_synthesized_iff.mp hkey
  obtain ⟨bundle, hdecision⟩ := Decision.isFresh_iff.mp hfresh
  have hserved := h.find?_eq hspec
  rw [hdecision] at hserved
  exact ⟨spec, bundle, hspec, (Decision.make_eq_fresh_iff.mp hdecision).1, hserved⟩

/-- A retained spec is served with the bundle before. -/
theorem exists_of_mem_retained (hkey : key ∈ tally.retained) :
    ∃ bundle, previous.bundle? key = some bundle ∧ tally.bundles.find? key = some bundle := by
  obtain ⟨spec, hspec, hkept⟩ := h.mem_retained_iff.mp hkey
  obtain ⟨fault, bundle, hdecision⟩ := Decision.isKept_iff.mp hkept
  have hserved := h.find?_eq hspec
  rw [hdecision] at hserved
  exact ⟨bundle, (Decision.make_eq_kept_iff.mp hdecision).2.1, hserved⟩

/-- The specs that are served are those that are synthesized or retained. -/
theorem mem_keys_iff :
    key ∈ tally.bundles.keys ↔ key ∈ tally.synthesized ∨ key ∈ tally.retained := by
  rw [KeyMap.mem_keys_iff]
  constructor
  · rintro ⟨bundle, hfind⟩
    obtain ⟨spec, -, ⟨-, hsynthesized⟩ | ⟨-, hretained, -⟩⟩ := h.served_cases hfind
    · exact .inl hsynthesized
    · exact .inr hretained
  · rintro (hsynthesized | hretained)
    · obtain ⟨spec, bundle, -, -, hfind⟩ := h.exists_of_mem_synthesized hsynthesized
      exact ⟨bundle, hfind⟩
    · obtain ⟨bundle, -, hfind⟩ := h.exists_of_mem_retained hretained
      exact ⟨bundle, hfind⟩

/-- No spec is counted twice among those that are served. -/
theorem synthesized_append_retained_perm :
    (tally.synthesized ++ tally.retained).Perm tally.bundles.keys := by
  -- the retained specs are some of the failed ones, and those are apart from the synthesized ones
  have hretained : tally.retained.Sublist (tally.failures.map (·.spec)) := by
    rw [h.retained_eq_failures]
    exact List.filter_sublist.map _
  have hnodup : (tally.synthesized ++ tally.retained).Nodup :=
    .sublist (hretained.append_left _)
      (h.synthesized_append_failures_perm.nodup_iff.mpr specs.nodup_keys)
  refine (List.perm_ext_iff_of_nodup hnodup tally.bundles.nodup_keys).mpr fun key => ?_
  rw [List.mem_append, h.mem_keys_iff]

end Tally.Settles

/-! ### Published passes -/

/-- The report on a settled tally balances, once its bundles are live. -/
theorem Tally.Settles.balances {listed : List RoutingSpec}
    (h : tally.Settles previous index (KeyMap.ofList RoutingSpec.key listed).entries)
    (hprevious : previous.bundles.Orderly) (version : Nat) :
    (tally.report previous version).Balances listed index previous
      { version, bundles := tally.bundles } := by
  have hremoved := tally.removed_eq hprevious version
  constructor
  case listed_perm => exact h.synthesized_append_failures_perm.trans KeyMap.keys_ofList_perm
  case retained_eq => exact h.retained_eq_failures
  case served_perm => exact h.synthesized_append_retained_perm
  case removed_eq => exact hremoved
  case synthesized_ascending => exact h.synthesized_ascending
  case retained_ascending => exact h.retained_ascending
  case removed_ascending =>
    rw [hremoved]
    exact previous.bundles.keys_ascending.filter _
  case failures_ascending => exact h.failures_ascending
  case bundle_synthesized =>
    intro key hkey
    obtain ⟨spec, bundle, hspec, hmade, hfind⟩ := h.exists_of_mem_synthesized hkey
    rw [KeyMap.find?_ofList] at hspec
    exact ⟨spec, bundle, hspec, hmade, hfind⟩
  case bundle_retained => exact fun key hkey => h.exists_of_mem_retained hkey

/-- The report of a published pass balances, however specs succeed, fail and keep bundles from
before. -/
theorem Plane.report_balances {plane : Plane} {inputs : Inputs} {report : Report}
    (h : plane.Reachable) (hreport : (plane.runPass inputs).outcome = .ok report) :
    ∃ listed memberships, inputs.specs = .ok listed ∧ inputs.memberships = .ok memberships ∧
      report.Balances listed (MembershipIndex.ofList memberships) plane.store.live
        (plane.runPass inputs).plane.store.live := by
  obtain ⟨specs, index, -, hlist, rfl, hstore⟩ := runPass_of_report h.sound hreport
  obtain ⟨listed, memberships, hspecs, hmemberships, rfl, rfl⟩ := Inputs.list_eq_ok_iff.mp hlist
  refine ⟨listed, memberships, hspecs, hmemberships, ?_⟩
  rw [hstore]
  exact settles_assemble.balances h.sound.orderly plane.store.nextVersion

/-- A report balances in which one spec is synthesized, one is retained, one is lost, and one is
not listed any more. -/
theorem Plane.report_balances_of_mixed_pass :
    let first : Inputs := {
      specs := .ok [{ name := "b", listener := "m" }, { name := "d", listener := "n" }]
      memberships := .ok [] }
    -- the last of the specs named a counts
    let second : Inputs := {
      specs := .ok [{ name := "b", listener := "" }, { name := "a", listener := "" },
        { name := "c", listener := "" }, { name := "a", listener := "l" }]
      memberships := .ok [] }
    let plane := (Plane.runPass {} first).plane
    ∃ report, (plane.runPass second).outcome = .ok report ∧
      report.synthesized = [⟨"default", "a"⟩] ∧ report.retained = [⟨"default", "b"⟩] ∧
      report.removed = [⟨"default", "d"⟩] ∧
      report.failures.map (·.spec) = [⟨"default", "b"⟩, ⟨"default", "c"⟩] ∧
      report.Balances [{ name := "b", listener := "" }, { name := "a", listener := "" },
          { name := "c", listener := "" }, { name := "a", listener := "l" }]
        (MembershipIndex.ofList []) plane.store.live (plane.runPass second).plane.store.live := by
  intro first second plane
  have hfirst : plane.store = _ :=
    (runPass_of_list Store.sound_new (rfl : first.cancelled = none) rfl).2
  have hreachable : plane.Reachable := .pass (.new {}) first
  have hreport := (runPass_of_list hreachable.sound (rfl : second.cancelled = none) rfl).1
  obtain ⟨listed, memberships, hspecs, hmemberships, hbalances⟩ :=
    report_balances hreachable hreport
  obtain rfl := Except.ok.inj hspecs
  obtain rfl := Except.ok.inj hmemberships
  refine ⟨_, hreport, ?_, ?_, ?_, ?_, hbalances⟩ <;> rw [hfirst] <;> decide +kernel

end TrafficPlane
