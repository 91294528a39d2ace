import TrafficPlane.Resource.ConnectionManager
import TrafficPlane.Synthesis.Endpoints
import TrafficPlane.Synthesis.Listener
import TrafficPlane.Synthesis.RouteConfiguration

/-!
# Bundles

A bundle is everything that one spec puts into a snapshot. It is made in whole from the spec and the
membership at hand, or not at all.

## Main definitions

* `Bundle`: the resources of one spec
* `Bundle.synthesize`: the bundle of a spec
* `ResourceType`: the four types of resources
* `Resource`: a resource in its encoded form
-/

namespace TrafficPlane

open Wire

/-- The types of resources that snapshots carry. -/
inductive ResourceType where
  | listener
  | routeConfiguration
  | cluster
  | loadAssignment
deriving DecidableEq, Repr

namespace ResourceType

/-- All types, in the order in which resources refer to each other. -/
def all : List ResourceType := [listener, routeConfiguration, cluster, loadAssignment]

/-- The URL that names the type. -/
def url : ResourceType → String
  | listener => "type.googleapis.com/envoy.config.listener.v3.Listener"
  | routeConfiguration => "type.googleapis.com/envoy.config.route.v3.RouteConfiguration"
  | cluster => "type.googleapis.com/envoy.config.cluster.v3.Cluster"
  | loadAssignment => "type.googleapis.com/envoy.config.endpoint.v3.ClusterLoadAssignment"

/-- The type that a URL names. -/
def ofUrl? (url : String) : Option ResourceType :=
  all.find? (·.url == url)

end ResourceType

/-- A resource in its encoded form. -/
structure Resource where
  name : String
  packed : Packed
deriving DecidableEq, Repr

/-- The resources of one spec. -/
structure Bundle where
  key : QualifiedName
  listener : Listener
  routeTable : RouteTable
  routeConfiguration : RouteConfiguration
  clusters : List Cluster
  loadAssignments : List LoadAssignment

/-- A resource of a type, encoded. -/
def Resource.ofFields (type : ResourceType) (name : String) (fields : List MessageField) :
    Resource where
  name
  packed := { typeUrl := type.url, value := encodeFields fields }

namespace Bundle

/-- The encoded resources of a type, in the order of their declaration. -/
def resources (bundle : Bundle) (type : ResourceType) : List Resource :=
  match type with
  | .listener => [.ofFields type bundle.listener.name bundle.listener.fields]
  | .routeConfiguration =>
    [.ofFields type bundle.routeConfiguration.name bundle.routeConfiguration.fields]
  | .cluster => bundle.clusters.map fun c => .ofFields type c.name c.fields
  | .loadAssignment =>
    bundle.loadAssignments.map fun a => .ofFields type a.clusterName a.fields

/-- The names of the resources of a type. -/
def resourceNames (bundle : Bundle) (type : ResourceType) : List String :=
  match type with
  | .listener => [bundle.listener.name]
  | .routeConfiguration => [bundle.routeConfiguration.name]
  | .cluster => bundle.clusters.map (·.name)
  | .loadAssignment => bundle.loadAssignments.map (·.clusterName)

/-- The number of resources of all types. -/
def resourceCount (bundle : Bundle) : Nat :=
  2 + bundle.clusters.length + bundle.loadAssignments.length

end Bundle

/-- The first of the names that has come before. -/
def firstRepeated? : List String → List String → Option String
  | _, [] => none
  | seen, name :: rest =>
    if seen.contains name then some name else firstRepeated? (name :: seen) rest

/-- The checks of a spec that come before its membership counts, with what they give: the route
table and the listener. -/
def RoutingSpec.prepare (spec : RoutingSpec) : Except ConfigCause (RouteTable × Listener) :=
  match firstRepeated? [] (spec.clusters.map (·.name)) with
  | some name => .error (.repeatedCluster spec.key name)
  | none => do
    let table ← RouteTable.compile spec
    let listener ← Listener.ofSpec spec table.render.name
    return (table, listener)

/-- The bundle of a spec. -/
def Bundle.synthesize (spec : RoutingSpec) (index : MembershipIndex) : Except Fault Bundle :=
  match spec.prepare with
  | .error cause => .error (.config cause)
  | .ok (routeTable, listener) =>
    let assignment (cluster : ClusterSpec) :=
      LoadAssignment.ofCluster index spec.space (ResourceName.cluster spec.key cluster.name) cluster
    match spec.clusters.mapM assignment with
    | .error fault => .error fault
    | .ok loadAssignments => .ok {
        key := spec.key
        listener
        routeTable
        routeConfiguration := routeTable.render
        clusters := spec.clusters.map fun cluster =>
          .ofName (ResourceName.cluster spec.key cluster.name)
        loadAssignments }

/-- The routes of a spec that synthesis warns about: no traffic reaches them. Routes are looked at
only if no cluster is declared twice. -/
def RoutingSpec.idleWarnings (spec : RoutingSpec) : List Nat :=
  match firstRepeated? [] (spec.clusters.map (·.name)) with
  | some _ => []
  | none => spec.idleRoutes

end TrafficPlane
