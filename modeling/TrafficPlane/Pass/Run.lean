import TrafficPlane.Metrics
import TrafficPlane.Pass.Basic
import TrafficPlane.Snapshot.Store

/-!
# Running passes

A pass lists specs and memberships, makes a bundle for each spec, and publishes all of them as one
snapshot. A pass that cannot list its inputs or that is cancelled changes nothing.

## Main definitions

* `Plane`: the store that passes publish into, with the metrics that they record
* `Inputs`: what a pass gets from its sources, and when it is cancelled
* `Plane.runPass`: runs one pass
-/

namespace TrafficPlane

/-- When a pass is cancelled. -/
inductive CancelPoint where
  | beforeStart
  /-- While inputs are listed or bundles are made. -/
  | underWay
  | beforePublishing
deriving DecidableEq, Repr

/-- What a pass gets from its sources, and when it is cancelled. -/
structure Inputs where
  specs : Except Fault (List RoutingSpec)
  memberships : Except Fault (List Membership)
  cancelled : Option CancelPoint := none

/-- The store that passes publish into, with the metrics that they record. -/
structure Plane where
  store : Store := {}
  metrics : Metrics := {}

/-- What a pass comes to. -/
structure PassResult where
  outcome : Except Fault Report
  warnings : List Warning := []
  plane : Plane

/-- The specs and memberships of a pass. Specs are listed first, so their fault counts first. -/
def Inputs.list (inputs : Inputs) : Except Fault (KeyMap RoutingSpec × MembershipIndex) :=
  match inputs.specs, inputs.memberships with
  | .error fault, _ => .error fault
  | .ok _, .error fault => .error fault
  | .ok specs, .ok memberships =>
    .ok (KeyMap.ofList RoutingSpec.key specs, MembershipIndex.ofList memberships)

/-- How a pass with this outcome is counted. -/
def passOutcome : Except Fault Report → PassOutcome
  | .ok _ => .published
  | .error .cancelled => .cancelled
  | .error _ => .aborted

/-- Records a published snapshot and its report. -/
def Metrics.recordSnapshot (metrics : Metrics) (snapshot : Snapshot) (report : Report) : Metrics :=
  ResourceType.all.foldl
    (fun metrics type =>
      metrics.recordResources type.url (snapshot.resourceNames type).length)
    (metrics.recordPublished report.version snapshot.bundles.size report.retained.length)

namespace Plane

/-- Publishes what was decided, under a version of its own. -/
def publish (plane : Plane) (tally : Tally) : Except InternalCause Report × Plane :=
  let (version, store) := plane.store.reserve
  let snapshot : Snapshot := { version, bundles := tally.bundles }
  match store.publish snapshot with
  | .error cause => (.error cause, { plane with store })
  | .ok store' =>
    let report := tally.report plane.store.live version
    (.ok report, { store := store', metrics := plane.metrics.recordSnapshot snapshot report })

/-- The plane with what a tally has counted in its metrics. -/
def countFailures (plane : Plane) (tally : Tally) : Plane :=
  { plane with
    metrics := tally.counted.foldl (fun metrics kind => metrics.recordFailure kind.label)
      plane.metrics }

/-- Decides and publishes the specs of a pass whose inputs have been listed. Their bundles are made
in turn, in the order of the names of the specs. -/
def runListed (plane : Plane) (specs : KeyMap RoutingSpec) (index : MembershipIndex)
    (cancelled : Bool) : PassResult :=
  let tally := assemble plane.store.live index specs
  let warnings := specs.values.flatMap RoutingSpec.warnings ++ tally.warnings
  let plane := plane.countFailures tally
  if cancelled then { outcome := .error .cancelled, warnings, plane }
  else match plane.publish tally with
    | (.ok report, plane) => { outcome := .ok report, warnings, plane }
    | (.error cause, plane) => { outcome := .error (.internal cause), warnings, plane }

/-- Runs a pass up to its end, which is still to be counted. -/
def runUncounted (plane : Plane) (inputs : Inputs) : PassResult :=
  if inputs.cancelled = some .beforeStart then { outcome := .error .cancelled, plane }
  else match inputs.list with
    | .error fault => { outcome := .error fault, warnings := [.listingFailed fault], plane }
    | .ok (specs, index) =>
      if inputs.cancelled = some .underWay then { outcome := .error .cancelled, plane }
      else plane.runListed specs index (inputs.cancelled = some .beforePublishing)

/-- Runs a pass and counts it. -/
def runPass (plane : Plane) (inputs : Inputs) : PassResult :=
  let result := plane.runUncounted inputs
  { result with
    plane := { result.plane with
      metrics := result.plane.metrics.recordPass (passOutcome result.outcome).label } }

end Plane

end TrafficPlane
