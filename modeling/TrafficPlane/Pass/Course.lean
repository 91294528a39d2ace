import TrafficPlane.Pass.Pool

/-!
# The course of a pass

A pass asks its sources, has bundles made in a pool, decides all specs and publishes. Somebody may
ask for it to be cancelled at any time. It looks out for that until all bundles are made, and once
more when all specs are decided. After that nothing stops it.

## Main definitions

* `Sources`: what the sources of a pass answer
* `Course`: a pass under way
* `Course.Step`: the pass gets on, or somebody asks for it to be cancelled
* `Plane.PassesWith`, `Plane.PassesTo`: what a pass may come to, and what it may warn of until then
-/

namespace TrafficPlane

/-- What the sources of a pass answer. -/
structure Sources where
  specs : Except Fault (List RoutingSpec)
  memberships : Except Fault (List Membership)

/-- Sources that answer with these lists. -/
def Sources.ofLists (listed : List RoutingSpec) (memberships : List Membership) : Sources where
  specs := .ok listed
  memberships := .ok memberships

/-- The inputs of a pass with these sources. -/
def Sources.inputs (sources : Sources) : Inputs where
  specs := sources.specs
  memberships := sources.memberships

/-- What the sources answer in a pass. -/
def Inputs.sources (inputs : Inputs) : Sources where
  specs := inputs.specs
  memberships := inputs.memberships

/-- How far a pass has got. -/
inductive CourseStage where
  | starting
  | listing
  /-- Bundles are being made of the specs. -/
  | making (specs : KeyMap RoutingSpec) (index : MembershipIndex) (pool : Pool)
  | decided (tally : Tally)
  | publishing (tally : Tally)
  | ended (outcome : Except Fault Report)

/-- The pass stops here if it has been cancelled. Tasks are waited for, but not while some specs have
none. -/
def CourseStage.Stoppable : CourseStage → Prop
  | starting => True
  | listing => True
  | making _ _ pool => pool.unspawned = []
  | decided _ => True
  | publishing _ => False
  | ended _ => False

/-- The pass still looks out for a cancellation, now or later on. -/
def CourseStage.Cancellable : CourseStage → Prop
  | starting => True
  | listing => True
  | making _ _ _ => True
  | decided _ => True
  | publishing _ => False
  | ended _ => False

/-- A pass under way. -/
structure Course where
  plane : Plane
  stage : CourseStage := .starting
  /-- Somebody has asked for the pass to be cancelled. -/
  cancelled : Bool := false
  /-- What the pass has warned of. While bundles are made, that is what its tasks have warned of. -/
  warnings : List Warning := []

namespace Course

/-- The pass ends and is counted. -/
def finish (course : Course) (outcome : Except Fault Report) : Course :=
  { course with
    plane := { course.plane with
      metrics := course.plane.metrics.recordPass (passOutcome outcome).label }
    stage := .ended outcome }

/-- The pass gets on, or somebody asks for it to be cancelled. -/
inductive Step (parallelism : Nat) (sources : Sources) (course : Course) : Course → Prop
  | cancel : Step parallelism sources course { course with cancelled := true }
  | stop (hstage : course.stage.Stoppable) (hcancelled : course.cancelled) :
    Step parallelism sources course (course.finish (.error .cancelled))
  | start (hstage : course.stage = .starting) (hcancelled : ¬ course.cancelled) :
    Step parallelism sources course { course with stage := .listing }
  | list (specs : KeyMap RoutingSpec) (index : MembershipIndex) (hstage : course.stage = .listing)
      (hcancelled : ¬ course.cancelled) (hlist : sources.inputs.list = .ok (specs, index)) :
    Step parallelism sources course
      { course with stage := .making specs index { unspawned := specs.entries } }
  /-- One source fails. What the other one answers, or whether it does, makes no difference. -/
  | failListing (fault : Fault) (hstage : course.stage = .listing) (hcancelled : ¬ course.cancelled)
      (hfault : sources.specs = .error fault ∨ sources.memberships = .error fault) :
    Step parallelism sources course
      { course.finish (.error fault) with warnings := course.warnings ++ [.listingFailed fault] }
  /-- A task gets on. Tasks do not know whether the pass has been cancelled. -/
  | make (specs : KeyMap RoutingSpec) (index : MembershipIndex) (pool pool' : Pool)
      (hstage : course.stage = .making specs index pool)
      (hstep : Pool.Step (max parallelism 1) index pool pool') :
    Step parallelism sources course
      { course with stage := .making specs index pool', warnings := pool'.warnings }
  | decide (specs : KeyMap RoutingSpec) (index : MembershipIndex) (pool : Pool) (tally : Tally)
      (hstage : course.stage = .making specs index pool) (hcancelled : ¬ course.cancelled)
      (hdone : pool.Done)
      (htally : tally = assembleFrom course.plane.store.live pool.results specs) :
    Step parallelism sources course
      { course with
        plane := course.plane.countFailures tally
        stage := .decided tally
        warnings := course.warnings ++ tally.warnings }
  /-- The pass looks out for a cancellation for the last time. -/
  | check (tally : Tally) (hstage : course.stage = .decided tally)
      (hcancelled : ¬ course.cancelled) :
    Step parallelism sources course { course with stage := .publishing tally }
  | publish (tally : Tally) (outcome : Except InternalCause Report) (plane : Plane)
      (hstage : course.stage = .publishing tally)
      (hpublish : course.plane.publish tally = (outcome, plane)) :
    Step parallelism sources course
      (Course.finish { course with plane } (outcome.mapError .internal))

/-- A pass that has come as far as the first course may come to the second one. -/
def Reaches (parallelism : Nat) (sources : Sources) : Course → Course → Prop :=
  Relation.ReflTransGen (Step parallelism sources)

end Course

/-- A pass may end with this outcome and leave this plane, after these warnings. Until then somebody
has asked for it to be cancelled, or nobody has. -/
def Plane.PassesWith (plane : Plane) (parallelism : Nat) (sources : Sources) (cancelled : Bool)
    (outcome : Except Fault Report) (warnings : List Warning) (plane' : Plane) : Prop :=
  Course.Reaches parallelism sources { plane }
    { plane := plane', stage := .ended outcome, cancelled, warnings }

/-- A pass may end with this outcome and leave this plane, whatever it has warned of. -/
def Plane.PassesTo (plane : Plane) (parallelism : Nat) (sources : Sources) (cancelled : Bool)
    (outcome : Except Fault Report) (plane' : Plane) : Prop :=
  ∃ warnings, plane.PassesWith parallelism sources cancelled outcome warnings plane'

end TrafficPlane
