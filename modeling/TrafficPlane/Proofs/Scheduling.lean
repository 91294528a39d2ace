import TrafficPlane.Proofs.Course

/-!
# Schedules

How many tasks make bundles at once, which of them gets on when, and in which order specs and
memberships are listed make no difference to what a pass publishes and reports.

## Main definitions

* `Plane.PassAlike`: passes with either sources come to the same under all schedules

## Main results

* `Plane.schedule_independent`: neither the schedule nor the order of the lists counts
-/

namespace TrafficPlane.Plane

variable {plane : Plane} {listed listed' : List RoutingSpec}
  {memberships memberships' : List Membership}

/-- Whatever the schedules of two passes that nobody cancels, with these sources, the passes publish
the same bundles and resources and report the same. There are schedules for both. -/
def PassAlike (plane : Plane) (sources sources' : Sources) : Prop :=
  ∀ parallelism parallelism',
    (∃ outcome first, plane.PassesTo parallelism sources false outcome first) ∧
    (∃ outcome' second, plane.PassesTo parallelism' sources' false outcome' second) ∧
    ∀ outcome outcome' first second, plane.PassesTo parallelism sources false outcome first →
      plane.PassesTo parallelism' sources' false outcome' second →
        (∃ report, outcome = .ok report ∧ outcome' = .ok report) ∧
        first.store.live.bundles = second.store.live.bundles ∧
        ∀ url, first.store.live.resourcesByUrl url = second.store.live.resourcesByUrl url

/-- A pass depends on its sources only as far as their specs and memberships count. -/
theorem runPass_congr {inputs inputs' : Inputs} (hcancelled : inputs.cancelled = inputs'.cancelled)
    (hlist : inputs.list = inputs'.list) : plane.runPass inputs = plane.runPass inputs' := by
  rw [runPass, runPass, runUncounted, runUncounted, hcancelled, hlist]

/-- Lists of which the same specs and memberships count lead to the same. -/
theorem passAlike_of_maps_eq (h : plane.store.Sound)
    (hspecs : KeyMap.ofList RoutingSpec.key listed = KeyMap.ofList RoutingSpec.key listed')
    (hindex : MembershipIndex.ofList memberships = MembershipIndex.ofList memberships') :
    plane.PassAlike (.ofLists listed memberships) (.ofLists listed' memberships') := by
  have hrun : plane.runPass (Sources.ofLists listed memberships).inputs =
      plane.runPass (Sources.ofLists listed' memberships').inputs := by
    refine runPass_congr rfl ?_
    simp only [Inputs.list, Sources.inputs, Sources.ofLists, hspecs, hindex]
  have hpasses : ∀ parallelism listed memberships, ∃ outcome plane',
      plane.PassesTo parallelism (.ofLists listed memberships) false outcome plane' :=
    fun parallelism listed memberships =>
      ⟨_, _, _, plane.passesWith_runPass parallelism (Sources.ofLists listed memberships).inputs⟩
  intro parallelism parallelism'
  refine ⟨hpasses parallelism listed memberships, hpasses parallelism' listed' memberships', ?_⟩
  intro outcome outcome' first second hpasses hpasses'
  obtain ⟨report, rfl, hreport, hstore⟩ := exists_report_of_passesTo h rfl hpasses
  obtain ⟨report', rfl, hreport', hstore'⟩ := exists_report_of_passesTo h rfl hpasses'
  -- both passes come to what a pass comes to that makes the bundles in turn
  rw [← hrun] at hreport' hstore'
  obtain rfl := Except.ok.inj (hreport.symm.trans hreport')
  rw [hstore, hstore']
  exact ⟨⟨report, rfl, rfl⟩, rfl, fun _ => rfl⟩

/-- Whatever number of tasks make bundles at once and in whatever order they get on, and in whatever
order specs and memberships of different names are listed, a pass publishes the same bundles and
resources and reports the same. If names are listed more than once, the last of each counts. No
schedule is held up before its end, and none goes on forever. -/
theorem schedule_independent (h : plane.Reachable) :
    (∀ listed memberships listed' memberships', (listed.map RoutingSpec.key).Nodup →
      (memberships.map Membership.key).Nodup → listed.Perm listed' →
      memberships.Perm memberships' →
      plane.PassAlike (.ofLists listed memberships) (.ofLists listed' memberships')) ∧
    (∀ listed memberships, plane.PassAlike (.ofLists listed memberships)
      (.ofLists (KeyMap.lastOfEach RoutingSpec.key listed)
        (KeyMap.lastOfEach Membership.key memberships))) ∧
    ∀ parallelism index pool,
      (pool.Done ∨ ∃ next, Pool.Step (max parallelism 1) index pool next) ∧
      ∀ next, Pool.Step (max parallelism 1) index pool next → next.work < pool.work := by
  refine ⟨?_, ?_, ?_⟩
  · intro listed memberships listed' memberships' hkeys hservices hperm hperm'
    exact passAlike_of_maps_eq h.sound (KeyMap.ofList_perm hkeys hperm)
      (KeyMap.ofList_perm hservices hperm')
  · intro listed memberships
    exact passAlike_of_maps_eq h.sound (KeyMap.ofList_lastOfEach _ listed).symm
      (KeyMap.ofList_lastOfEach _ memberships).symm
  · intro parallelism index pool
    refine ⟨?_, fun _ hstep => hstep.work_lt⟩
    by_cases hdone : pool.Done
    · exact .inl hdone
    · exact .inr (Pool.exists_step (Nat.le_max_right parallelism 1) hdone)

/-- Of two specs that claim one listener the same one is served, whether they are listed in one order
and made one by one, or listed in the other order and made side by side. -/
theorem schedule_independent_of_conflict :
    let a : RoutingSpec := { name := "a", listener := "l" }
    let b : RoutingSpec := { name := "b", listener := "l" }
    let s : Membership := { name := "s" }
    let t : Membership := { name := "t" }
    (∃ outcome first, Plane.PassesTo {} 1 (.ofLists [a, b] [s, t]) false outcome first) ∧
    (∃ outcome second, Plane.PassesTo {} 4 (.ofLists [b, a] [t, s]) false outcome second) ∧
    ∀ outcome outcome' first second,
      Plane.PassesTo {} 1 (.ofLists [a, b] [s, t]) false outcome first →
      Plane.PassesTo {} 4 (.ofLists [b, a] [t, s]) false outcome' second →
        (∃ report, outcome = .ok report ∧ outcome' = .ok report ∧
          report.synthesized = [⟨"default", "a"⟩] ∧
          report.failures.map (·.spec) = [⟨"default", "b"⟩]) ∧
        first.store.live.bundles = second.store.live.bundles := by
  intro a b s t
  have hnew : Reachable {} := .new {}
  obtain ⟨hexists, hexists', halike⟩ := (schedule_independent hnew).1 [a, b] [s, t] [b, a] [t, s]
    (by decide) (by decide) (.swap b a []) (.swap t s []) 1 4
  refine ⟨hexists, hexists', fun outcome outcome' first second hpasses hpasses' => ?_⟩
  obtain ⟨⟨report, rfl, rfl⟩, hbundles, -⟩ := halike _ _ _ _ hpasses hpasses'
  obtain ⟨_, heq, hreport, -⟩ := exists_report_of_passesTo hnew.sound rfl hpasses
  obtain rfl := Except.ok.inj heq
  -- the report is that of the pass that makes the bundles in turn
  obtain rfl := Except.ok.inj (hreport.symm.trans (runPass_of_list hnew.sound rfl rfl).1)
  exact ⟨⟨_, rfl, rfl, by decide +kernel, by decide +kernel⟩, hbundles⟩

end TrafficPlane.Plane
