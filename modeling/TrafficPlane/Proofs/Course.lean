import TrafficPlane.Pass.Course
import TrafficPlane.Proofs.Pool
import TrafficPlane.Proofs.Run

/-!
# What passes may come to

Wherever a pass is cancelled, its store is as it was before: a version is handed out in the last step
only, when nothing stops the pass any more. So a pass comes to what it comes to when its bundles are
made in turn, or it fails and changes nothing.

## Main definitions

* `Plane.Leads`: a pass publishes what it decided, or it fails and changes nothing
* `Course.OnTrack`: how far a pass has got tells what it has done
* `Course.Doomed`: a pass will not publish

## Main results

* `Course.Step.onTrack`, `Course.Reaches.onTrack`: passes stay on track
* `Course.Step.doomed`, `Course.Reaches.doomed`: a pass that is cancelled in time does not publish
* `Plane.leads_of_passesTo`, `Plane.exists_report_of_passesTo`: what a pass may come to
* `Plane.passesWith_runPass`: it may come to what it comes to when its bundles are made in turn
-/

namespace TrafficPlane

variable {plane plane' : Plane} {parallelism : Nat} {sources : Sources} {cancelled : Bool}
  {outcome : Except Fault Report} {course next : Course} {tally : Tally} {store : Store}
  {inputs : Inputs} {specs : KeyMap RoutingSpec} {index : MembershipIndex}

/-- The tally is what is decided on the answers of the sources. -/
def Sources.Decide (sources : Sources) (live : Snapshot) (tally : Tally) : Prop :=
  ∃ specs index, sources.inputs.list = .ok (specs, index) ∧ tally = assemble live index specs

theorem Sources.Decide.orderly (h : sources.Decide plane.store.live tally)
    (hsound : plane.store.Sound) : tally.bundles.Orderly := by
  obtain ⟨specs, index, hlist, rfl⟩ := h
  exact orderly_assemble (Inputs.key_of_list hlist) hsound.orderly

/-- A pass with this outcome has published what it decided, and that is what the store is after it; or
it was cancelled or a source failed, and the store is as it was. -/
def Plane.Leads (plane : Plane) (sources : Sources) (cancelled : Bool)
    (outcome : Except Fault Report) (store : Store) : Prop :=
  (∃ tally, sources.Decide plane.store.live tally ∧
    outcome = .ok (tally.report plane.store.live plane.store.nextVersion) ∧
    store = plane.store.advance tally.bundles) ∨
  ∃ fault, outcome = .error fault ∧ store = plane.store ∧
    (fault = .cancelled ∧ cancelled ∨ sources.specs = .error fault ∨
      sources.memberships = .error fault)

/-- Once a pass has ended, it makes no difference that somebody asks for it to be cancelled. -/
theorem Plane.Leads.cancel (h : plane.Leads sources cancelled outcome store) :
    plane.Leads sources true outcome store := by
  refine h.imp_right ?_
  rintro ⟨fault, houtcome, hstore, hfault⟩
  exact ⟨fault, houtcome, hstore, hfault.imp_left fun hcancelled => ⟨hcancelled.1, rfl⟩⟩

namespace Course

/-! ### What a pass has done -/

/-- How far a pass has got tells what it has done. Up to its end the store is as it was before. -/
def OnTrack (plane : Plane) (parallelism : Nat) (sources : Sources) (course : Course) : Prop :=
  match course.stage with
  | .starting => course.plane.store = plane.store
  | .listing => course.plane.store = plane.store
  | .making specs index pool => course.plane.store = plane.store ∧
      sources.inputs.list = .ok (specs, index) ∧ Pool.Reaches parallelism index specs pool
  | .decided tally => course.plane.store = plane.store ∧ sources.Decide plane.store.live tally
  | .publishing tally => course.plane.store = plane.store ∧ sources.Decide plane.store.live tally
  | .ended outcome => plane.Leads sources course.cancelled outcome course.plane.store

/-- Where a pass stops when it is cancelled, its store is as it was before. -/
theorem OnTrack.store_eq (h : course.OnTrack plane parallelism sources)
    (hstage : course.stage.Stoppable) : course.plane.store = plane.store := by
  rw [OnTrack] at h
  cases hcase : course.stage with
  | starting => simpa only [hcase] using h
  | listing => simpa only [hcase] using h
  | making specs index pool =>
    simp only [hcase] at h
    exact h.1
  | decided tally =>
    simp only [hcase] at h
    exact h.1
  | publishing tally =>
    rw [hcase] at hstage
    exact hstage.elim
  | ended outcome =>
    rw [hcase] at hstage
    exact hstage.elim

theorem OnTrack.cancel (h : course.OnTrack plane parallelism sources) :
    OnTrack plane parallelism sources { course with cancelled := true } := by
  rw [OnTrack] at h ⊢
  cases hcase : course.stage with
  | starting | listing | making | decided | publishing => simpa only [hcase] using h
  | ended outcome =>
    simp only [hcase] at h
    exact h.cancel

theorem Step.onTrack (hsound : plane.store.Sound) (hstep : Step parallelism sources course next)
    (h : course.OnTrack plane parallelism sources) : next.OnTrack plane parallelism sources := by
  cases hstep with
  | cancel => exact h.cancel
  | stop hstage hcancelled =>
    exact .inr ⟨.cancelled, rfl, h.store_eq hstage, .inl ⟨rfl, hcancelled⟩⟩
  | start hstage hcancelled => simpa only [OnTrack, hstage] using h
  | list specs index hstage hcancelled hlist =>
    simp only [OnTrack, hstage] at h
    exact ⟨h, hlist, .refl⟩
  | failListing fault hstage hcancelled hfault =>
    simp only [OnTrack, hstage] at h
    exact .inr ⟨fault, rfl, h, .inr hfault⟩
  | make specs index pool pool' hstage hstep =>
    simp only [OnTrack, hstage] at h
    obtain ⟨hstore, hlist, hreaches⟩ := h
    exact ⟨hstore, hlist, hreaches.tail hstep⟩
  | decide specs index pool tally hstage hcancelled hdone htally =>
    simp only [OnTrack, hstage] at h
    obtain ⟨hstore, hlist, hreaches⟩ := h
    rw [assembleFrom_eq hreaches hdone, hstore] at htally
    exact ⟨hstore, specs, index, hlist, htally⟩
  | check tally hstage hcancelled => simpa only [OnTrack, hstage] using h
  | publish tally outcome plane' hstage hpublish =>
    simp only [OnTrack, hstage] at h
    obtain ⟨hstore, hdecide⟩ := h
    -- the store is still the sound one from before, so the decided bundles are published into it
    obtain ⟨metrics, heq⟩ := course.plane.publish_eq (hstore ▸ hsound) (hdecide.orderly hsound)
    obtain ⟨rfl, rfl⟩ := Prod.mk.inj (hpublish.symm.trans heq)
    refine .inl ⟨tally, hdecide, ?_, ?_⟩
    · rw [hstore]
      rfl
    · rw [← hstore]
      rfl

theorem Reaches.onTrack (hsound : plane.store.Sound) (h : Reaches parallelism sources course next)
    (hcourse : course.OnTrack plane parallelism sources) :
    next.OnTrack plane parallelism sources := by
  induction h with
  | refl => exact hcourse
  | tail _ hstep ih => exact hstep.onTrack hsound ih

/-- A pass that has failed has changed nothing. -/
theorem Reaches.store_eq_of_error {fault : Fault} (h : Reaches parallelism sources { plane } course)
    (hsound : plane.store.Sound) (hstage : course.stage = .ended (.error fault)) :
    course.plane.store = plane.store := by
  have htrack : course.OnTrack plane parallelism sources := h.onTrack hsound rfl
  simp only [OnTrack, hstage] at htrack
  rcases htrack with ⟨tally, -, houtcome, -⟩ | ⟨fault', -, hstore, -⟩
  · exact absurd houtcome nofun
  · exact hstore

/-! ### Cancelled passes -/

/-- The pass has failed, or it has been cancelled and still looks out for that. -/
def Doomed (course : Course) : Prop :=
  course.cancelled ∧ course.stage.Cancellable ∨ ∃ fault, course.stage = .ended (.error fault)

theorem Step.doomed (hstep : Step parallelism sources course next) (h : course.Doomed) :
    next.Doomed := by
  rcases h with ⟨hcancelled, hcancellable⟩ | ⟨fault, hended⟩
  · cases hstep with
    | cancel => exact .inl ⟨rfl, hcancellable⟩
    | stop hstage => exact .inr ⟨.cancelled, rfl⟩
    | failListing fault => exact .inr ⟨fault, rfl⟩
    | make specs index pool pool' hstage hstep => exact .inl ⟨hcancelled, trivial⟩
    | publish tally outcome plane hstage hpublish =>
      rw [hstage] at hcancellable
      exact hcancellable.elim
    -- otherwise the pass gets on only if it has not been cancelled
    | start hstage hnot => exact absurd hcancelled hnot
    | list specs index hstage hnot hlist => exact absurd hcancelled hnot
    | decide specs index pool tally hstage hnot hdone htally => exact absurd hcancelled hnot
    | check tally hstage hnot => exact absurd hcancelled hnot
  · -- a pass that has ended does not get on
    cases hstep with
    | cancel => exact .inr ⟨fault, hended⟩
    | stop hstage hcancelled =>
      rw [hended] at hstage
      exact hstage.elim
    | start hstage => exact absurd (hended.symm.trans hstage) nofun
    | list specs index hstage => exact absurd (hended.symm.trans hstage) nofun
    | failListing fault' hstage => exact absurd (hended.symm.trans hstage) nofun
    | make specs index pool pool' hstage => exact absurd (hended.symm.trans hstage) nofun
    | decide specs index pool tally hstage => exact absurd (hended.symm.trans hstage) nofun
    | check tally hstage => exact absurd (hended.symm.trans hstage) nofun
    | publish tally outcome plane hstage => exact absurd (hended.symm.trans hstage) nofun

theorem Reaches.doomed (h : Reaches parallelism sources course next) (hcourse : course.Doomed) :
    next.Doomed := by
  induction h with
  | refl => exact hcourse
  | tail _ hstep ih => exact hstep.doomed ih

/-- A pass that is doomed and ends has failed. -/
theorem Doomed.exists_fault (h : course.Doomed) (hstage : course.stage = .ended outcome) :
    ∃ fault, outcome = .error fault := by
  rcases h with ⟨-, hcancellable⟩ | ⟨fault, hended⟩
  · rw [hstage] at hcancellable
    exact hcancellable.elim
  · exact ⟨fault, CourseStage.ended.inj (hstage.symm.trans hended)⟩

/-! ### Passes that are not held up -/

/-- While bundles are made, the pool gets on as it would alone, and what its tasks warn of is what the
pass warns of. -/
theorem reaches_making (course : Course) {pool pool' : Pool}
    (h : Relation.ReflTransGen (Pool.Step (max parallelism 1) index) pool pool') :
    ∃ warnings, (course.warnings = pool.warnings → warnings = pool'.warnings) ∧
      Reaches parallelism sources { course with stage := .making specs index pool }
        { course with stage := .making specs index pool', warnings } := by
  induction h with
  | refl => exact ⟨course.warnings, id, .refl⟩
  | tail _ hstep ih =>
    obtain ⟨warnings, -, hreaches⟩ := ih
    exact ⟨_, fun _ => rfl, hreaches.tail (.make specs index _ _ rfl hstep)⟩

/-- A pass that is cancelled while it looks out for that may end. -/
theorem exists_ended (hcancelled : course.cancelled) (hcancellable : course.stage.Cancellable) :
    ∃ last, Reaches parallelism sources course last ∧
      last.stage = .ended (.error .cancelled) := by
  have hstop : ∀ next : Course, Reaches parallelism sources course next → next.cancelled →
      next.stage.Stoppable → ∃ last, Reaches parallelism sources course last ∧
        last.stage = .ended (.error .cancelled) := fun next hreaches hnext hstage =>
    ⟨next.finish (.error .cancelled), hreaches.tail (.stop hstage hnext), rfl⟩
  cases hstage : course.stage with
  | starting | listing | decided => exact hstop course .refl hcancelled (by rw [hstage]; trivial)
  | making specs index pool =>
    -- the pass stops at the latest when all tasks are done
    obtain ⟨pool', hpool, hdone⟩ : ∃ pool', Relation.ReflTransGen
        (Pool.Step (max parallelism 1) index) pool pool' ∧ pool'.Done :=
      Pool.exists_done (Nat.le_max_right parallelism 1) pool
    obtain ⟨warnings, -, hreaches⟩ : ∃ warnings, _ ∧
        Reaches parallelism sources { course with stage := .making specs index pool }
          { course with stage := .making specs index pool', warnings } :=
      reaches_making course hpool
    have hcourse : { course with stage := .making specs index pool } = course := by rw [← hstage]
    rw [hcourse] at hreaches
    exact hstop _ hreaches hcancelled hdone.1
  | publishing | ended =>
    rw [hstage] at hcancellable
    exact hcancellable.elim

/-- A pass that nobody cancels may decide on what its sources answer as if bundles were made in
turn. -/
theorem reaches_decided (hlist : sources.inputs.list = .ok (specs, index)) :
    let tally := assemble plane.store.live index specs
    Reaches parallelism sources { plane }
      { plane := plane.countFailures tally, stage := .decided tally
        warnings := specs.values.flatMap RoutingSpec.warnings ++ tally.warnings } := by
  intro tally
  obtain ⟨pool, hreaches, hdone, hlog⟩ := Pool.exists_done_in_turn parallelism index specs
  have htally : tally = assembleFrom plane.store.live pool.results specs :=
    (assembleFrom_eq hreaches hdone).symm
  obtain ⟨warnings, hwarnings, hmaking⟩ : ∃ warnings, ([] = [] → warnings = pool.warnings) ∧
      Reaches parallelism sources
        { plane, stage := .making specs index { unspawned := specs.entries } }
        { plane, stage := .making specs index pool, warnings } :=
    reaches_making { plane } hreaches
  rw [hwarnings rfl, hlog] at hmaking
  refine .head (.start rfl Bool.false_ne_true) ?_
  refine .head (.list specs index rfl Bool.false_ne_true hlist) ?_
  exact hmaking.tail (.decide specs index pool tally rfl Bool.false_ne_true hdone htally)

end Course

namespace Plane

/-- What a pass may come to. -/
theorem leads_of_passesTo (hsound : plane.store.Sound)
    (h : plane.PassesTo parallelism sources cancelled outcome plane') :
    plane.Leads sources cancelled outcome plane'.store := by
  obtain ⟨warnings, hreaches⟩ := h
  exact Course.Reaches.onTrack hsound hreaches rfl

/-- A pass that nobody cancels and whose sources answer publishes the same as if its bundles were made
in turn, and has the same report. -/
theorem exists_report_of_passesTo (hsound : plane.store.Sound)
    (hlist : sources.inputs.list = .ok (specs, index))
    (h : plane.PassesTo parallelism sources false outcome plane') :
    ∃ report, outcome = .ok report ∧ (plane.runPass sources.inputs).outcome = .ok report ∧
      plane'.store = (plane.runPass sources.inputs).plane.store := by
  rcases leads_of_passesTo hsound h with ⟨tally, hdecide, rfl, hstore⟩ | ⟨fault, -, -, hfault⟩
  · obtain ⟨specs', index', hlist', rfl⟩ := hdecide
    obtain ⟨houtcome, hstore'⟩ := runPass_of_list hsound rfl hlist'
    exact ⟨_, rfl, houtcome, hstore.trans hstore'.symm⟩
  · -- neither has it been cancelled nor has a source failed
    obtain ⟨listed, memberships, hspecs, hmemberships, -⟩ := Inputs.list_eq_ok_iff.mp hlist
    rcases hfault with ⟨-, hcancelled⟩ | hfails | hfails
    · exact absurd hcancelled Bool.false_ne_true
    · exact absurd (hspecs.symm.trans hfails) nofun
    · exact absurd (hmemberships.symm.trans hfails) nofun

/-- A pass that is not cancelled comes to what its publication comes to. -/
theorem runListed_eq (htally : assemble plane.store.live index specs = tally) :
    let ended := (plane.countFailures tally).publish tally
    plane.runListed specs index false =
      { outcome := ended.1.mapError .internal
        warnings := specs.values.flatMap RoutingSpec.warnings ++ tally.warnings
        plane := ended.2 } := by
  cases hpublish : (plane.countFailures tally).publish tally with
  | mk outcome plane' =>
    rw [runListed, htally, if_neg Bool.false_ne_true]
    dsimp only
    rw [hpublish]
    cases outcome <;> rfl

/-- A pass may come to what it comes to when its bundles are made in turn, with the same warnings. -/
theorem passesWith_runPass (plane : Plane) (parallelism : Nat) (inputs : Inputs) :
    plane.PassesWith parallelism inputs.sources inputs.cancelled.isSome
      (plane.runPass inputs).outcome (plane.runPass inputs).warnings
      (plane.runPass inputs).plane := by
  have hlisting : Course.Reaches parallelism inputs.sources { plane } { plane, stage := .listing } :=
    .single (.start rfl Bool.false_ne_true)
  by_cases hstart : inputs.cancelled = some .beforeStart
  · rw [runPass, runUncounted, if_pos hstart, hstart]
    exact .head .cancel (.single (.stop trivial rfl))
  rw [runPass, runUncounted, if_neg hstart]
  cases hlist : inputs.list with
  | error fault =>
    have hfails : plane.PassesWith parallelism inputs.sources false (.error fault)
        [.listingFailed fault] (Course.finish { plane } (.error fault)).plane :=
      hlisting.tail (.failListing fault rfl Bool.false_ne_true (Inputs.fault_of_list hlist))
    -- a cancellation that the listing did not wait for comes too late
    cases inputs.cancelled with
    | none => exact hfails
    | some point => exact hfails.tail .cancel
  | ok listed =>
    obtain ⟨specs, index⟩ := listed
    let tally := assemble plane.store.live index specs
    have hdecided : Course.Reaches parallelism inputs.sources { plane }
        { plane := plane.countFailures tally, stage := .decided tally
          warnings := specs.values.flatMap RoutingSpec.warnings ++ tally.warnings } :=
      Course.reaches_decided hlist
    cases hcancelled : inputs.cancelled with
    | none =>
      have hrun := runListed_eq (rfl : assemble plane.store.live index specs = tally)
      refine (hdecided.tail (.check tally rfl Bool.false_ne_true)).tail ?_
      dsimp only
      exact hrun ▸ .publish tally _ _ rfl rfl
    | some point =>
      cases point with
      | beforeStart => exact absurd hcancelled hstart
      | underWay => exact (hlisting.tail .cancel).tail (.stop trivial rfl)
      | beforePublishing => exact (hdecided.tail .cancel).tail (.stop trivial rfl)

end Plane

end TrafficPlane
