import TrafficPlane.Proofs.Course
import TrafficPlane.Proofs.Views

/-!
# Metrics that agree with reports

A pass warns of each of its failures and counts it as it decides the spec, sets the gauges if it
publishes, and counts itself when it ends. So a report tells what the pass has warned of and counted.
Wherever a pass ends, the gauges speak of the snapshot that is live then and of the last report, also
if they were set by an earlier pass.

## Main definitions

* `Series.count`: the number of a label
* `Metrics.Describes`, `Metrics.Agrees`: gauges that speak of a snapshot and a report
* `Sources.DecideWith`: what is decided on the answers of sources, and what is warned of until then
* `Course.Metered`: how far a pass has got tells what it has recorded and what it decided on
* `Plane.Records`: what a pass leaves in the metrics, and what it has warned of
* `Plane.Follow`, `lastReport?`: a run of passes over a store, and the last report of some of them

## Main results

* `Series.count_update`: a change to one label leaves the others as they are
* `Course.Step.metered`, `Course.Reaches.metered`: what passes record on their way
* `Plane.records_of_passesWith`: what they leave in the metrics, wherever they are cancelled
* `Plane.Records.specFailed_warnings`: a pass with a report has warned of its failures, once of each
* `Plane.Records.runPass_eq`: with a report, it is what they leave when bundles are made in turn
* `Plane.Follow.agrees`: gauges agree with the live snapshot after any run of passes
* `Plane.metrics_tell_reports`: what a call adds to the counts and the warnings, and what the gauges
  show after it
-/

namespace TrafficPlane

variable {plane plane' : Plane} {parallelism : Nat} {sources : Sources} {cancelled : Bool}
  {outcome : Except Fault Report} {course next : Course} {tally : Tally} {metrics : Metrics}
  {live : Snapshot} {report : Report} {label other : String} {warnings : List Warning}

/-! ### Series -/

namespace Series

/-- The number of a label, which is zero before it is set. -/
def count (series : Series) (label : String) : Nat :=
  (series.lookup label).getD 0

theorem lookup_update (f : Nat → Nat) (series : Series) :
    (update label f series).lookup other =
      if other = label then some (f (count series label)) else series.lookup other := by
  induction series with
  | nil =>
    by_cases h : other = label
    · simp [update, count, h]
    · simp [update, h]
  | cons entry rest ih =>
    obtain ⟨first, n⟩ := entry
    rw [update]
    by_cases hfirst : first = label
    · subst hfirst
      by_cases h : other = first
      · simp [count, h]
      · simp [List.lookup_cons, beq_false_of_ne h, h]
    · -- an entry of another label is passed over, here and where the label is counted
      have hlabel : count ((first, n) :: rest) label = count rest label := by
        simp [count, List.lookup_cons, beq_false_of_ne (Ne.symm hfirst)]
      rw [if_neg hfirst, List.lookup_cons, List.lookup_cons, ih, hlabel]
      by_cases h : other = first
      · subst h
        simp [hfirst]
      · simp [beq_false_of_ne h]

theorem count_update (f : Nat → Nat) (series : Series) :
    (update label f series).count other =
      if other = label then f (series.count label) else series.count other := by
  rw [count, lookup_update]
  split_ifs <;> rfl

end Series

theorem FaultKind.label_inj {kind kind' : FaultKind} : kind.label = kind'.label ↔ kind = kind' := by
  cases kind <;> cases kind' <;> decide

/-! ### Gauges -/

namespace Binary64

/-- Counts of up to fifty-three binary digits are not rounded. -/
theorem value_round {n : Nat} (h : n < 2 ^ 53) : (round n).value = n := by
  have hexponent : n.log2 - 52 = 0 := by
    rcases Nat.eq_zero_or_pos n with rfl | hpos
    · rfl
    · have hlog : n.log2 < 53 := (Nat.log2_lt (Nat.ne_of_gt hpos)).mpr h
      omega
  simp [round, hexponent, Nat.mod_one, Rounded.value]

end Binary64

namespace Metrics

/-- The gauges speak of this snapshot and this report. -/
structure Describes (metrics : Metrics) (live : Snapshot) (report : Report) : Prop where
  version_eq : report.version = live.version
  published_eq : metrics.published = some {
    version := live.version
    bundles := live.bundles.size
    retained := report.retained.length }
  resources_eq : ∀ url, metrics.resources.lookup url =
    (ResourceType.ofUrl? url).map fun type => (live.resourceNames type).length

/-- The gauges speak of this snapshot and the last report. Without a report none has been set. -/
def Agrees (metrics : Metrics) (live : Snapshot) : Option Report → Prop
  | some report => metrics.Describes live report
  | none => metrics.published = none ∧ metrics.resources = []

/-- Only the gauges count. -/
theorem Agrees.congr {metrics' : Metrics} {report? : Option Report} (h : metrics.Agrees live report?)
    (hpublished : metrics'.published = metrics.published)
    (hresources : metrics'.resources = metrics.resources) : metrics'.Agrees live report? := by
  cases report? with
  | some report =>
    exact ⟨h.version_eq, hpublished.trans h.published_eq, hresources ▸ h.resources_eq⟩
  | none => exact ⟨hpublished.trans h.1, hresources.trans h.2⟩

theorem Agrees.lookup_eq_none {report? : Option Report} (h : metrics.Agrees live report?)
    {url : String} (hurl : ResourceType.ofUrl? url = none) : metrics.resources.lookup url = none := by
  cases report? with
  | some report => rw [Describes.resources_eq h, hurl, Option.map_none]
  | none =>
    rw [h.2]
    rfl

/-- Only the gauges of the four types are set, all of them to the numbers of the snapshot. -/
theorem lookup_recordSnapshot (snapshot : Snapshot) (url : String) :
    (metrics.recordSnapshot snapshot report).resources.lookup url =
      match ResourceType.ofUrl? url with
      | some type => some (snapshot.resourceNames type).length
      | none => metrics.resources.lookup url := by
  simp only [recordSnapshot, recordResources, recordPublished, ResourceType.all, List.foldl_cons,
    List.foldl_nil, Series.lookup_update]
  cases hurl : ResourceType.ofUrl? url with
  | some type =>
    have htype : type.url = url := by simpa using List.find?_some hurl
    subst htype
    cases type <;> simp [ResourceType.url]
  | none =>
    have hne : ∀ type : ResourceType, url ≠ type.url := fun type =>
      Ne.symm (ResourceType.ofUrl?_eq_none_iff.mp hurl type)
    simp [hne]

/-- A snapshot that is published is what the gauges speak of, whatever they were set to before. -/
theorem describes_recordSnapshot {report? : Option Report} {before snapshot : Snapshot}
    (h : metrics.Agrees before report?) (hversion : report.version = snapshot.version) :
    (metrics.recordSnapshot snapshot report).Describes snapshot report where
  version_eq := hversion
  published_eq := by rw [← hversion]; rfl
  resources_eq url := by
    rw [lookup_recordSnapshot]
    cases hurl : ResourceType.ofUrl? url with
    | some type => rfl
    | none => exact h.lookup_eq_none hurl

/-- Counting failures adds to the count of each kind and to nothing else. -/
theorem foldl_recordFailure (kinds : List FaultKind) (metrics : Metrics) :
    let counted := kinds.foldl (fun metrics kind => metrics.recordFailure kind.label) metrics
    (∀ label, counted.failures.count label =
        metrics.failures.count label + kinds.countP (·.label = label)) ∧
      counted.passes = metrics.passes ∧ counted.published = metrics.published ∧
      counted.resources = metrics.resources := by
  induction kinds generalizing metrics with
  | nil => simp
  | cons kind rest ih =>
    obtain ⟨hcount, hpasses, hpublished, hresources⟩ := ih (metrics.recordFailure kind.label)
    refine ⟨fun label => ?_, hpasses, hpublished, hresources⟩
    rw [List.foldl_cons, hcount, recordFailure, Series.count_update, List.countP_cons]
    by_cases hlabel : kind.label = label
    · simp [hlabel]
      omega
    · simp [hlabel, Ne.symm hlabel]

end Metrics

/-! ### What a pass records -/

namespace Plane

/-- Counting the failures of a tally adds to the count of each kind and changes nothing else. -/
theorem metrics_countFailures (plane : Plane) (tally : Tally) :
    let counted := (plane.countFailures tally).metrics
    (∀ label, counted.failures.count label = plane.metrics.failures.count label +
        tally.counted.countP (·.label = label)) ∧
      counted.passes = plane.metrics.passes ∧ counted.published = plane.metrics.published ∧
      counted.resources = plane.metrics.resources :=
  Metrics.foldl_recordFailure tally.counted plane.metrics

/-- What is published is recorded. A publication that is refused leaves the live snapshot and the
metrics as they are. -/
theorem publish_cases (plane : Plane) (tally : Tally) :
    match plane.publish tally with
    | (.ok report, plane') => report.failures = tally.failures ∧
        report.version = plane'.store.live.version ∧
        plane'.metrics = plane.metrics.recordSnapshot plane'.store.live report
    | (.error _, plane') =>
        plane'.store.live = plane.store.live ∧ plane'.metrics = plane.metrics := by
  unfold publish
  dsimp only [Store.reserve, Store.publish]
  cases Store.accepts _ _ with
  | error cause => exact ⟨rfl, rfl⟩
  | ok _ => exact ⟨rfl, rfl, rfl⟩

theorem of_publish_eq_ok (h : plane.publish tally = (.ok report, plane')) :
    report.failures = tally.failures ∧ report.version = plane'.store.live.version ∧
      plane'.metrics = plane.metrics.recordSnapshot plane'.store.live report := by
  have hcases := plane.publish_cases tally
  rw [h] at hcases
  exact hcases

theorem of_publish_eq_error {cause : InternalCause}
    (h : plane.publish tally = (.error cause, plane')) :
    plane'.store.live = plane.store.live ∧ plane'.metrics = plane.metrics := by
  have hcases := plane.publish_cases tally
  rw [h] at hcases
  exact hcases

end Plane

/-- The tally is what is decided on the answers of the sources. Until then tasks have warned of each
listed spec, in any order, and after them the decisions of the specs that failed. -/
def Sources.DecideWith (sources : Sources) (live : Snapshot) (tally : Tally)
    (warnings : List Warning) : Prop :=
  ∃ specs index made, sources.inputs.list = .ok (specs, index) ∧
    tally = assemble live index specs ∧ made.Perm (specs.values.flatMap RoutingSpec.warnings) ∧
    warnings = made ++ tally.warnings

/-- A pass with this outcome has counted its failures and itself. With a report it has published what
it decided on the answers of its sources, after these warnings. Without one the live snapshot and the
gauges are those from before. -/
inductive Plane.Records (plane : Plane) (sources : Sources) :
    Except Fault Report → List Warning → Plane → Prop
  | published (tally : Tally) {report : Report} {warnings : List Warning} {plane' : Plane}
      (hdecide : sources.DecideWith plane.store.live tally warnings)
      (hpublish : (plane.countFailures tally).publish tally = (.ok report, plane')) :
      Records plane sources (.ok report) warnings
        { plane' with metrics := plane'.metrics.recordPass PassOutcome.published.label }
  | failed (tally : Tally) {fault : Fault} {warnings : List Warning} {plane' : Plane}
      (hlive : plane'.store.live = plane.store.live)
      (hmetrics : plane'.metrics = (plane.countFailures tally).metrics.recordPass
        (passOutcome (.error fault)).label) :
      Records plane sources (.error fault) warnings plane'

namespace Sources.DecideWith

theorem logged (h : sources.DecideWith live tally warnings) : tally.Logged := by
  obtain ⟨specs, index, -, -, rfl, -⟩ := h
  exact logged_assemble live index specs

/-- Of what a pass has warned of when all specs are decided, the failures are told by the text. -/
theorem filter_warnings (h : sources.DecideWith live tally warnings) :
    warnings.filter (·.message = "Routing spec failed to synthesize") =
      tally.failures.map fun failure =>
        .specFailed failure.spec failure.fault failure.retained := by
  have hlogged := h.logged
  obtain ⟨specs, index, made, -, -, hmade, rfl⟩ := h
  have hidle : ∀ warning ∈ made, warning.message ≠ "Routing spec failed to synthesize" := by
    intro warning hwarning
    obtain ⟨spec, -, hspec⟩ := List.mem_flatMap.mp (hmade.mem_iff.mp hwarning)
    obtain ⟨route, -, rfl⟩ := List.mem_map.mp hspec
    simp [Warning.message]
  rw [List.filter_append,
    List.filter_eq_nil_iff.mpr fun warning hwarning => by simpa using hidle warning hwarning,
    List.nil_append, hlogged.warnings_eq, List.filter_eq_self]
  intro warning hwarning
  obtain ⟨failure, -, rfl⟩ := List.mem_map.mp hwarning
  simp [Warning.message]

end Sources.DecideWith

namespace Course

/-- How far a pass has got tells what it has recorded, what it has warned of, and what it has decided
on. -/
def Metered (plane : Plane) (parallelism : Nat) (sources : Sources) (course : Course) : Prop :=
  match course.stage with
  | .starting => course.plane = plane ∧ course.warnings = []
  | .listing => course.plane = plane ∧ course.warnings = []
  | .making specs index pool => course.plane = plane ∧ course.warnings = pool.warnings ∧
      sources.inputs.list = .ok (specs, index) ∧ Pool.Reaches parallelism index specs pool
  | .decided tally => course.plane = plane.countFailures tally ∧
      sources.DecideWith plane.store.live tally course.warnings
  | .publishing tally => course.plane = plane.countFailures tally ∧
      sources.DecideWith plane.store.live tally course.warnings
  | .ended outcome => plane.Records sources outcome course.warnings course.plane

/-- A pass that fails before it publishes has counted the failures of its tally, if it has one. -/
theorem Metered.finish (h : course.Metered plane parallelism sources) (fault : Fault)
    (hstage : ∀ outcome, course.stage ≠ .ended outcome) (warnings : List Warning) :
    Metered plane parallelism sources { course.finish (.error fault) with warnings } := by
  have hcounted : ∃ tally, course.plane = plane.countFailures tally := by
    rw [Metered] at h
    cases hcase : course.stage with
    | starting | listing =>
      -- without a tally there are no failures to count
      simp only [hcase] at h
      exact ⟨{}, h.1⟩
    | making specs index pool =>
      simp only [hcase] at h
      exact ⟨{}, h.1⟩
    | decided tally | publishing tally =>
      simp only [hcase] at h
      exact ⟨tally, h.1⟩
    | ended outcome => exact absurd hcase (hstage outcome)
  obtain ⟨tally, hplane⟩ := hcounted
  have hlive : (course.finish (.error fault)).plane.store.live = plane.store.live := by
    rw [Course.finish, hplane]
    rfl
  have hmetrics : (course.finish (.error fault)).plane.metrics =
      (plane.countFailures tally).metrics.recordPass (passOutcome (.error fault)).label := by
    rw [Course.finish, hplane]
  exact Plane.Records.failed tally hlive hmetrics

theorem Step.metered (hstep : Step parallelism sources course next)
    (h : course.Metered plane parallelism sources) : next.Metered plane parallelism sources := by
  cases hstep with
  | cancel => exact h
  | stop hstage hcancelled =>
    refine h.finish .cancelled (fun outcome hended => ?_) course.warnings
    rw [hended] at hstage
    exact hstage
  | start hstage hcancelled => simpa only [Metered, hstage] using h
  | list specs index hstage hcancelled hlist =>
    simp only [Metered, hstage] at h
    exact ⟨h.1, h.2, hlist, .refl⟩
  | failListing fault hstage hcancelled hfault =>
    exact h.finish fault (fun outcome hended => nomatch hstage.symm.trans hended) _
  | make specs index pool pool' hstage hstep =>
    simp only [Metered, hstage] at h
    obtain ⟨hplane, -, hlist, hreaches⟩ := h
    exact ⟨hplane, rfl, hlist, hreaches.tail hstep⟩
  | decide specs index pool tally hstage hcancelled hdone htally =>
    simp only [Metered, hstage] at h
    obtain ⟨hplane, hwarnings, hlist, hreaches⟩ := h
    -- whichever task was done first, the results are those of bundles that are made in turn
    rw [assembleFrom_eq hreaches hdone, hplane] at htally
    exact ⟨congrArg (·.countFailures tally) hplane, specs, index, course.warnings, hlist, htally,
      hwarnings ▸ hreaches.warnings_perm hdone, rfl⟩
  | check tally hstage hcancelled => simpa only [Metered, hstage] using h
  | publish tally outcome plane' hstage hpublish =>
    simp only [Metered, hstage] at h
    obtain ⟨hplane, hdecide⟩ := h
    rw [hplane] at hpublish
    cases outcome with
    | ok report => exact Plane.Records.published tally hdecide hpublish
    | error cause =>
      -- a version may have been handed out, but what is live has not changed
      obtain ⟨hlive, hmetrics⟩ := Plane.of_publish_eq_error hpublish
      exact Plane.Records.failed tally hlive
        (congrArg (·.recordPass PassOutcome.aborted.label) hmetrics)

theorem Reaches.metered (h : Reaches parallelism sources course next)
    (hcourse : course.Metered plane parallelism sources) :
    next.Metered plane parallelism sources := by
  induction h with
  | refl => exact hcourse
  | tail _ hstep ih => exact hstep.metered ih

end Course

namespace Plane

/-- What a pass leaves in the metrics, wherever it was cancelled. -/
theorem records_of_passesWith
    (h : plane.PassesWith parallelism sources cancelled outcome warnings plane') :
    plane.Records sources outcome warnings plane' := by
  have hstart : Course.Metered plane parallelism sources { plane } := ⟨rfl, rfl⟩
  exact Course.Reaches.metered h hstart

namespace Records

/-- A pass counts itself once, under its outcome. -/
theorem passes_eq (h : plane.Records sources outcome warnings plane') :
    plane'.metrics.passes.count label = plane.metrics.passes.count label +
      if label = (passOutcome outcome).label then 1 else 0 := by
  have hcounted : ∀ tally, (plane.countFailures tally).metrics.passes = plane.metrics.passes :=
    fun tally => (plane.metrics_countFailures tally).2.1
  have hpass : plane'.metrics.passes =
      Series.update (passOutcome outcome).label (· + 1) plane.metrics.passes := by
    cases h with
    | published tally hdecide hpublish =>
      rw [(of_publish_eq_ok hpublish).2.2, ← hcounted tally]
      rfl
    | failed tally hlive hmetrics =>
      rw [hmetrics, ← hcounted tally]
      rfl
  rw [hpass, Series.count_update]
  by_cases hlabel : label = (passOutcome outcome).label
  · simp [hlabel]
  · simp [hlabel]

/-- A pass with a report counts the failures of the report. -/
theorem failures_eq (h : plane.Records sources (.ok report) warnings plane') (kind : FaultKind) :
    plane'.metrics.failures.count kind.label = plane.metrics.failures.count kind.label +
      report.failures.countP (·.fault.kind = kind) := by
  cases h with
  | published tally hdecide hpublish =>
    obtain ⟨hfailures, -, hmetrics⟩ := of_publish_eq_ok hpublish
    have hcount := (plane.metrics_countFailures tally).1 kind.label
    rw [hdecide.logged.counted_eq, List.countP_map] at hcount
    simp only [Function.comp_def, FaultKind.label_inj] at hcount
    rw [hmetrics, hfailures]
    exact hcount

/-- A pass with a report has warned of the failures of the report, in order and once of each. Its
other warnings have another text. -/
theorem specFailed_warnings (h : plane.Records sources (.ok report) warnings plane') :
    warnings.filter (·.message = "Routing spec failed to synthesize") =
      report.failures.map fun failure =>
        .specFailed failure.spec failure.fault failure.retained := by
  cases h with
  | published tally hdecide hpublish =>
    rw [(of_publish_eq_ok hpublish).1]
    exact hdecide.filter_warnings

/-- If the gauges speak of the live snapshot and the last report, so they do after a pass. -/
theorem agrees {report? : Option Report} (h : plane.Records sources outcome warnings plane')
    (hagrees : plane.metrics.Agrees plane.store.live report?) :
    plane'.metrics.Agrees plane'.store.live (outcome.toOption.or report?) := by
  cases h with
  | published tally hdecide hpublish =>
    obtain ⟨-, hversion, hmetrics⟩ := of_publish_eq_ok hpublish
    have hcounted : (plane.countFailures tally).metrics.Agrees plane.store.live report? := by
      obtain ⟨-, -, hpublished, hresources⟩ := plane.metrics_countFailures tally
      exact hagrees.congr hpublished hresources
    have hdescribes := Metrics.describes_recordSnapshot hcounted hversion
    rw [hmetrics]
    exact ⟨hdescribes.version_eq, hdescribes.published_eq, hdescribes.resources_eq⟩
  | failed tally hlive hmetrics =>
    obtain ⟨-, -, hpublished, hresources⟩ := plane.metrics_countFailures tally
    rw [hmetrics, hlive]
    exact hagrees.congr hpublished hresources

/-- A pass with a report leaves what it leaves when its bundles are made in turn, and has the same
report and the same warnings, though perhaps in another order. -/
theorem runPass_eq (h : plane.Records sources (.ok report) warnings plane') :
    (plane.runPass sources.inputs).outcome = .ok report ∧
      (plane.runPass sources.inputs).plane = plane' ∧
      warnings.Perm (plane.runPass sources.inputs).warnings := by
  cases h with
  | published tally hdecide hpublish =>
    obtain ⟨specs, index, made, hlist, htally, hmade, rfl⟩ := hdecide
    have huncounted : plane.runUncounted sources.inputs = plane.runListed specs index false := by
      rw [runUncounted, hlist]
      rfl
    rw [runPass, huncounted, runListed_eq htally.symm, hpublish]
    exact ⟨rfl, rfl, hmade.append_right tally.warnings⟩

end Records

end Plane

/-! ### Runs of passes -/

/-- The report of the last of so many passes that has one. -/
def lastReport? (outcomes : Nat → Except Fault Report) : Nat → Option Report
  | 0 => none
  | n + 1 =>
    match outcomes n with
    | .ok report => some report
    | .error _ => lastReport? outcomes n

namespace Plane

/-- Passes over one store follow each other. Each may be cancelled at any time, and what its sources
answer and what it warns of is its own. -/
def Follow (planes : Nat → Plane) (sources : Nat → Sources) (outcomes : Nat → Except Fault Report)
    (warnings : Nat → List Warning) : Prop :=
  ∀ n, ∃ parallelism cancelled, (planes n).PassesWith parallelism (sources n) cancelled (outcomes n)
    (warnings n) (planes (n + 1))

section Follow

variable {planes : Nat → Plane} {sources : Nat → Sources} {outcomes : Nat → Except Fault Report}
  {warnings : Nat → List Warning}

/-- Passes that make their bundles in turn follow each other. -/
theorem follow_after (plane : Plane) (passes : Nat → Inputs) :
    Follow (plane.after passes) (fun n => (passes n).sources)
      (fun n => (plane.pass passes n).outcome) fun n => (plane.pass passes n).warnings := fun n =>
  ⟨1, _, (plane.after passes n).passesWith_runPass 1 (passes n)⟩

theorem Follow.records (h : Follow planes sources outcomes warnings) (n : Nat) :
    (planes n).Records (sources n) (outcomes n) (warnings n) (planes (n + 1)) := by
  obtain ⟨parallelism, cancelled, hpasses⟩ := h n
  exact records_of_passesWith hpasses

/-- After each pass the gauges speak of the live snapshot and the last report. -/
theorem Follow.agrees (h : Follow planes sources outcomes warnings)
    (hstart : (planes 0).metrics.Agrees (planes 0).store.live none) (n : Nat) :
    (planes n).metrics.Agrees (planes n).store.live (lastReport? outcomes n) := by
  induction n with
  | zero => exact hstart
  | succ n ih =>
    -- a pass without a report leaves the last one in its place, and the gauges too
    have hnext := (h.records n).agrees ih
    rw [lastReport?]
    cases houtcome : outcomes n with
    | ok report => simpa [houtcome, Except.toOption] using hnext
    | error fault => simpa [houtcome, Except.toOption] using hnext

end Follow

/-- For any passes that follow each other on one store, from when no gauge was set, and any of them:
it counts itself once, under its outcome. If it has a report, it counts the failures of the report
under their kinds, it warns of them, in order, once of each and with the same data, and it leaves what
it leaves when its bundles are made in turn, with the same report and the same warnings in some order.
So does a call that makes the bundles in turn. After the pass the gauges speak of the live snapshot
and the last report, or none is set if there is none, and that of the version is exact as long as
versions have no more than fifty-three binary digits. -/
theorem metrics_tell_reports {planes : Nat → Plane} {sources : Nat → Sources}
    {outcomes : Nat → Except Fault Report} {warnings : Nat → List Warning}
    (h : Follow planes sources outcomes warnings)
    (hunset : (planes 0).metrics.published = none ∧ (planes 0).metrics.resources = []) (n : Nat) :
    let before := planes n
    let after := planes (n + 1)
    (∀ label, after.metrics.passes.count label = before.metrics.passes.count label +
      if label = (passOutcome (outcomes n)).label then 1 else 0) ∧
    (∀ report, outcomes n = .ok report →
      (∀ kind : FaultKind, after.metrics.failures.count kind.label =
        before.metrics.failures.count kind.label +
          report.failures.countP (·.fault.kind = kind)) ∧
      (warnings n).filter (·.message = "Routing spec failed to synthesize") =
        report.failures.map (fun failure =>
          .specFailed failure.spec failure.fault failure.retained) ∧
      (before.runPass (sources n).inputs).outcome = .ok report ∧
      (before.runPass (sources n).inputs).plane = after ∧
      (warnings n).Perm (before.runPass (sources n).inputs).warnings) ∧
    (∀ inputs report, (before.runPass inputs).outcome = .ok report →
      (before.runPass inputs).warnings.filter (·.message = "Routing spec failed to synthesize") =
        report.failures.map fun failure =>
          .specFailed failure.spec failure.fault failure.retained) ∧
    after.metrics.Agrees after.store.live (lastReport? outcomes (n + 1)) ∧
    ∀ gauges, after.metrics.published = some gauges → gauges.version < 2 ^ 53 →
      (Binary64.round gauges.version).value = after.store.live.version := by
  intro before after
  have hagrees := h.agrees hunset (n + 1)
  refine ⟨fun label => (h.records n).passes_eq, fun report hreport => ?_,
    fun inputs report hreport => ?_, hagrees, ?_⟩
  · have hrecords := h.records n
    rw [hreport] at hrecords
    exact ⟨hrecords.failures_eq, hrecords.specFailed_warnings, hrecords.runPass_eq⟩
  · have hrecords := records_of_passesWith (before.passesWith_runPass 1 inputs)
    rw [hreport] at hrecords
    exact hrecords.specFailed_warnings
  · intro gauges hgauges hversion
    rw [Binary64.value_round hversion]
    -- gauges that are set speak of the live version, and without a report none is set
    cases hlast : lastReport? outcomes (n + 1) with
    | none =>
      rw [hlast] at hagrees
      exact absurd (hgauges.symm.trans hagrees.1) nofun
    | some report =>
      rw [hlast] at hagrees
      exact congrArg PublishedGauges.version
        (Option.some.inj (hgauges.symm.trans hagrees.published_eq))

/-- A pass that is cancelled when its failures are counted, and one whose sources fail, leave the
gauges as the pass before them has set them. -/
theorem metrics_tell_reports_of_three_passes :
    let lists : Inputs := {
      specs := .ok [{ name := "a", listener := "l" }, { name := "b", listener := "" }]
      memberships := .ok [] }
    let passes : Nat → Inputs := fun n => match n with
      | 0 => lists
      | 1 => { lists with cancelled := some .beforePublishing }
      | _ => { lists with memberships := .error (.io "") }
    let planes := Plane.after {} passes
    (planes 0).metrics.published = none ∧ (planes 0).metrics.resources = [] ∧
      (planes 3).metrics.passes.count "published" = 1 ∧
      (planes 3).metrics.passes.count "aborted" = 1 ∧
      (planes 3).metrics.failures.count "config" = 2 ∧
      ∃ report, (Plane.pass {} passes 0).outcome = .ok report ∧ report.failures.length = 1 ∧
        (planes 3).metrics.Describes (planes 3).store.live report := by
  intro lists passes planes
  obtain ⟨hpasses, -, -, hagrees, -⟩ :=
    metrics_tell_reports (follow_after {} passes) ⟨rfl, rfl⟩ 2
  have hreport : (Plane.pass {} passes 0).outcome = .ok _ :=
    (runPass_of_list Store.sound_new rfl rfl).1
  have hlast : ∀ report, (Plane.pass {} passes 0).outcome = .ok report →
      lastReport? (fun n => (Plane.pass {} passes n).outcome) 3 = some report := by
    intro report hfirst
    have hfailed : (Plane.pass {} passes 2).outcome = .error (.io "") ∧
        (Plane.pass {} passes 1).outcome = .error .cancelled := ⟨rfl, rfl⟩
    simp only [lastReport?, hfailed, hfirst]
  rw [hlast _ hreport] at hagrees
  obtain ⟨hpublished, haborted, hfailures⟩ :
      (planes 2).metrics.passes.count "published" = 1 ∧
        (planes 2).metrics.passes.count "aborted" = 0 ∧
        (planes 3).metrics.failures.count "config" = 2 := by
    decide +kernel
  refine ⟨rfl, rfl, (hpasses "published").trans ?_, (hpasses "aborted").trans ?_, hfailures, _,
    hreport, by decide +kernel, hagrees⟩
  · exact congrArg (· + 0) hpublished
  · exact congrArg (· + 1) haborted

end Plane

end TrafficPlane
