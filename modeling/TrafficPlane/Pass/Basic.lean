import TrafficPlane.Snapshot.Basic
import TrafficPlane.Warning

/-!
# Folding specs into a generation

A pass goes over the listed specs in the order of their names. A spec whose new bundle is sound and
whose listener is free is served with it; any other spec keeps the bundle that it had before, if the
listener of that one is free.

## Main definitions

* `Report`, `Failure`: what a pass says of its specs
* `Tally`: what a pass has decided so far
* `Tally.note`: warns of a failure, counts it and reports it
* `Tally.add`: decides one more spec
* `assemble`: decides all specs
-/

namespace TrafficPlane

/-- A spec that has no new bundle. -/
structure Failure where
  spec : QualifiedName
  fault : Fault
  /-- The bundle that it had before is still served. -/
  retained : Bool
deriving DecidableEq, Repr

/-- What a pass says of its specs. -/
structure Report where
  version : Nat
  synthesized : List QualifiedName
  retained : List QualifiedName
  removed : List QualifiedName
  failures : List Failure
deriving DecidableEq, Repr

/-- Every spec has a new bundle. -/
def Report.clean (report : Report) : Bool :=
  report.failures.isEmpty

/-- What a pass has decided so far: the bundles to serve, the specs that hold the listeners, and
what became of each spec, in order. -/
structure Tally where
  bundles : KeyMap Bundle := .empty
  claims : List (String × QualifiedName) := []
  synthesized : List QualifiedName := []
  retained : List QualifiedName := []
  failures : List Failure := []
  /-- What the pass has warned of while it decided. -/
  warnings : List Warning := []
  /-- The kinds of faults that have been counted. -/
  counted : List FaultKind := []

namespace Tally

/-- The spec that already holds the listener of a bundle, if it is another one. -/
def conflict? (tally : Tally) (key : QualifiedName) (bundle : Bundle) : Option ConfigCause :=
  match tally.claims.lookup bundle.listener.name with
  | some owner =>
    if owner = key then none else some (.listenerTaken bundle.listener.name key owner)
  | none => none

/-- Serves a bundle, which takes its listener. -/
def serve (tally : Tally) (key : QualifiedName) (bundle : Bundle) : Tally :=
  { tally with
    bundles := tally.bundles.insert key bundle
    claims := (bundle.listener.name, key) :: tally.claims }

/-- The bundle of the generation before that a spec falls back on. -/
def fallback? (tally : Tally) (previous : Snapshot) (key : QualifiedName) : Option Bundle :=
  (previous.bundle? key).filter fun bundle => (tally.conflict? key bundle).isNone

/-- Warns of a failure, counts it under the kind of its fault, and reports it. -/
def note (tally : Tally) (failure : Failure) : Tally :=
  { tally with
    warnings := tally.warnings ++ [.specFailed failure.spec failure.fault failure.retained]
    counted := tally.counted ++ [failure.fault.kind]
    failures := tally.failures ++ [failure] }

/-- A spec that has no new bundle falls back on the one before. -/
def fail (tally : Tally) (previous : Snapshot) (key : QualifiedName) (fault : Fault) : Tally :=
  match tally.fallback? previous key with
  | some bundle =>
    let tally := tally.serve key bundle
    { tally with retained := tally.retained ++ [key] }.note { spec := key, fault, retained := true }
  | none => tally.note { spec := key, fault, retained := false }

/-- Decides one more spec by its new bundle or by the fault that it has instead. -/
def add (tally : Tally) (previous : Snapshot) (key : QualifiedName)
    (fresh : Except Fault Bundle) : Tally :=
  match fresh with
  | .error fault => tally.fail previous key fault
  | .ok bundle =>
    match tally.conflict? key bundle with
    | some cause => tally.fail previous key (.config cause)
    | none =>
      let tally := tally.serve key bundle
      { tally with synthesized := tally.synthesized ++ [key] }

end Tally

/-- What the synthesis of a spec warns of. -/
def RoutingSpec.warnings (spec : RoutingSpec) : List Warning :=
  spec.idleWarnings.map (.idleRoute spec.key)

/-- Decides all specs, in the order of their names. -/
def assemble (previous : Snapshot) (index : MembershipIndex) (specs : KeyMap RoutingSpec) : Tally :=
  specs.entries.foldl
    (fun tally (key, spec) => tally.add previous key (Bundle.synthesize spec index)) {}

/-- The report on what was decided, once it is published. -/
def Tally.report (tally : Tally) (previous : Snapshot) (version : Nat) : Report where
  version
  synthesized := tally.synthesized
  retained := tally.retained
  removed := (previous.bundles.values.map (·.key)).filter fun key => !tally.bundles.has key
  failures := tally.failures

end TrafficPlane
