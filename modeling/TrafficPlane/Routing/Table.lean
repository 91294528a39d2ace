import TrafficPlane.Resource.Name
import TrafficPlane.Routing.Matcher

/-!
# Route tables

The routes of one spec, checked and in order, with the generated names of the clusters that they
send traffic to.

## Main definitions

* `Route.compile`, `RouteTable.compile`: the checked routes of a spec
* `RouteTable.firstMatch?`: the route that takes a request
* `Route.pick?`: the target that a sample falls to
* `RoutingSpec.idleRoutes`: the routes that no traffic reaches
-/

namespace TrafficPlane

/-- A cluster that a route sends traffic to, with its share. -/
structure Target where
  localName : String
  cluster : String
  weight : UInt32
deriving DecidableEq, Repr, Inhabited

/-- A route that has been checked. -/
structure Route where
  matcher : RequestMatcher
  targets : List Target
  maxStreamMillis : Option UInt64
  grpcTimeoutMaxMillis : Option UInt64

/-- The largest sum of weights that a route may have. -/
def maxTotalWeight : Nat := 4294967295

namespace Route

/-- The sum of the weights of all targets. -/
def totalWeight (route : Route) : Nat :=
  (route.targets.map (·.weight.toNat)).foldr (· + ·) 0

/-- The target in whose share of the weights a sample falls. -/
def pickTarget? : List Target → Nat → Option Target
  | [], _ => none
  | target :: rest, sample =>
    if sample < target.weight.toNat then some target
    else pickTarget? rest (sample - target.weight.toNat)

/-- The target that a sample falls to, each target having as many samples as its weight says. -/
def pick? (route : Route) (sample : Nat) : Option Target :=
  pickTarget? route.targets sample

/-- The target of a reference to a cluster that the spec declares. -/
def target (spec : RoutingSpec) (index : Nat) (ref : ClusterRef) : Except ConfigCause Target :=
  if spec.clusters.any (·.name == ref.name) then
    .ok {
      localName := ref.name
      cluster := ResourceName.cluster spec.key ref.name
      weight := ref.weight }
  else .error (.undeclaredCluster index spec.key ref.name)

/-- Checks one route of a spec. -/
def compile (spec : RoutingSpec) (index : Nat) (route : RouteSpec) : Except ConfigCause Route :=
  if route.clusters.isEmpty then .error (.routeWithoutClusters index spec.key)
  else do
    let matcher ← RequestMatcher.compile route
    let targets ← route.clusters.mapM (target spec index)
    let compiled : Route := {
      matcher
      targets
      maxStreamMillis := route.maxStreamMillis
      grpcTimeoutMaxMillis := route.grpcTimeoutMaxMillis }
    if maxTotalWeight < compiled.totalWeight then
      .error (.excessiveWeight index spec.key compiled.totalWeight)
    else .ok compiled

end Route

/-- The checked routes of one spec. -/
structure RouteTable where
  name : String
  virtualHost : String
  domains : List String
  routes : List Route

namespace RouteTable

/-- Checks the routes of a spec in order. -/
def compile (spec : RoutingSpec) : Except ConfigCause RouteTable := do
  let routes ← spec.routes.zipIdx.mapM fun (route, index) => Route.compile spec index route
  return {
    name := ResourceName.routeConfiguration spec.key
    virtualHost := ResourceName.virtualHost spec.key
    domains := [spec.listener]
    routes }

/-- The first route that takes the request. -/
def firstMatch? (table : RouteTable) (request : Request) : Option Route :=
  table.routes.find? (·.matcher.accepts request)

/-- The place of the first route that takes the request. -/
def firstMatchIndex? (table : RouteTable) (request : Request) : Option Nat :=
  table.routes.findIdx? (·.matcher.accepts request)

/-- The generated names of all targets in order. -/
def referencedClusters (table : RouteTable) : List String :=
  table.routes.flatMap fun route => route.targets.map (·.cluster)

end RouteTable

/-- The places of the routes whose weights add up to zero. Routes after one that fails its check are
not looked at. -/
def RoutingSpec.idleRoutes (spec : RoutingSpec) : List Nat :=
  let checked := spec.routes.zipIdx.map fun (route, index) =>
    (index, (Route.compile spec index route).toOption)
  (checked.takeWhile (·.2.isSome)).filterMap fun (index, route) =>
    if (route.map Route.totalWeight) = some 0 then some index else none

end TrafficPlane
