import TrafficPlane.Proofs.Run

/-!
# Repeated passes

A pass decides each spec by the bundle that it had before, which the pass itself replaces. It is
the same when it runs again all the same: a spec that fell back keeps what it fell back on, and a
spec that was left without a bundle has none to fall back on.

## Main results

* `Plane.runPass_again`: a second pass with the same inputs publishes and reports the same, under a
  newer version
-/

namespace TrafficPlane.Plane

variable {plane : Plane} {inputs : Inputs} {report : Report}

/-- A pass that runs again with the same inputs publishes the same bundles and resources. It reports
the same specs as synthesized, retained and failed, none as removed, and a newer version. -/
theorem runPass_again (h : plane.Reachable) (hreport : (plane.runPass inputs).outcome = .ok report) :
    let first := plane.runPass inputs
    let second := first.plane.runPass inputs
    ∃ report', second.outcome = .ok report' ∧
      (∀ key, second.plane.store.live.bundle? key = first.plane.store.live.bundle? key) ∧
      (∀ url, second.plane.store.live.resourcesByUrl url =
        first.plane.store.live.resourcesByUrl url) ∧
      report'.synthesized = report.synthesized ∧ report'.retained = report.retained ∧
      report'.failures = report.failures ∧ report'.removed = [] ∧
      report.version < report'.version ∧ first.plane.store.live.version = report.version ∧
      second.plane.store.live.version = report'.version := by
  intro first second
  obtain ⟨specs, index, hcancelled, hlist, rfl, hstore⟩ := runPass_of_report h.sound hreport
  have hsound : first.plane.store.Sound := (h.pass inputs).sound
  obtain ⟨houtcome, hstore'⟩ := runPass_of_list hsound hcancelled hlist
  set tally := assemble plane.store.live index specs with htally
  set tally' := assemble first.plane.store.live index specs with htally'
  have hlive : first.plane.store.live = { version := plane.store.nextVersion, bundles := tally.bundles } :=
    congrArg Store.live hstore
  -- both tallies settle the specs after the first pass, so they are the same
  have hagain : tally.Settles first.plane.store.live index specs.entries := by
    rw [hlive]
    exact settles_assemble.again plane.store.nextVersion
  obtain ⟨hbundles, hsynthesized, hretained, hfailures⟩ := settles_assemble.unique hagain
  have hlive' : second.plane.store.live.bundles = first.plane.store.live.bundles := by
    rw [hstore', hlive]
    exact hbundles
  refine ⟨_, houtcome, ?_, ?_, hsynthesized, hretained, hfailures, ?_, ?_, ?_, ?_⟩
  · intro key
    rw [Snapshot.bundle?, Snapshot.bundle?, hlive']
  · intro url
    have hresources : second.plane.store.live.resources = first.plane.store.live.resources := by
      funext type
      rw [Snapshot.resources, Snapshot.resources, hlive']
    rw [Snapshot.resourcesByUrl, Snapshot.resourcesByUrl, hresources]
  · refine List.eq_nil_iff_forall_not_mem.mpr fun key hremoved => ?_
    obtain ⟨⟨bundle, hfind⟩, hnone⟩ := (mem_removed_iff hsound.orderly).mp hremoved
    rw [hlive, Snapshot.bundle?, ← hbundles] at hfind
    exact Option.some_ne_none bundle (hfind.symm.trans hnone)
  · change plane.store.nextVersion < first.plane.store.nextVersion
    rw [hstore]
    exact Nat.lt_succ_self _
  · rw [hlive]
    rfl
  · rw [hstore']
    rfl

/-- With two specs that claim one listener, the second pass rejects the same one again. -/
theorem runPass_again_of_conflict :
    let inputs : Inputs := {
      specs := .ok [{ name := "a", listener := "l" }, { name := "b", listener := "l" }]
      memberships := .ok [] }
    ∃ report report', (Plane.runPass {} inputs).outcome = .ok report ∧
      ((Plane.runPass {} inputs).plane.runPass inputs).outcome = .ok report' ∧
      report'.failures = report.failures ∧ report.version < report'.version := by
  intro inputs
  have hreport := (runPass_of_list (Reachable.new {}).sound (rfl : inputs.cancelled = none) rfl).1
  obtain ⟨report', houtcome, -, -, -, -, hfailures, -, hversion, -⟩ :=
    runPass_again (.new {}) hreport
  exact ⟨_, report', hreport, houtcome, hfailures, hversion⟩

end TrafficPlane.Plane
