import TrafficPlane.Fault

/-!
# Warnings

What a pass tells its operator beside its report.

## Main definitions

* `Warning`: an event that an operator should know of
* `Warning.message`: the text of the event
-/

namespace TrafficPlane

/-- An event that an operator should know of. -/
inductive Warning where
  /-- The weights of a route add up to zero. -/
  | idleRoute (spec : QualifiedName) (route : Nat)
  /-- The inputs of a pass could not be listed. -/
  | listingFailed (fault : Fault)
  /-- A spec has no new bundle; an earlier one may still be served. -/
  | specFailed (spec : QualifiedName) (fault : Fault) (retained : Bool)
deriving DecidableEq, Repr

/-- The text of the event. -/
def Warning.message : Warning → String
  | .idleRoute _ _ => "Route has a total cluster weight of zero and will not receive traffic"
  | .listingFailed _ => "Failed to list inputs, aborting pass"
  | .specFailed _ _ _ => "Routing spec failed to synthesize"

end TrafficPlane
