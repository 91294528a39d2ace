import TrafficPlane.Synthesis.Bundle

/-!
# Snapshots

A snapshot is one version of everything that proxies fetch: the bundles of all specs that are
served, by the names of the specs.

## Main definitions

* `Snapshot`: a version and its bundles
* `Snapshot.resources`, `Snapshot.resourceNames`: the resources of a type
* `Snapshot.checkBy`: names are unique, and every reference leads to a resource of the snapshot, if
  connection managers are read in a given way
* `Snapshot.check`: the check of snapshots before they are published
-/

namespace TrafficPlane

/-- One version of the resources of all specs. -/
structure Snapshot where
  version : Nat
  bundles : KeyMap Bundle

namespace Snapshot

/-- What there is before anything is published. -/
def empty : Snapshot where
  version := 0
  bundles := .empty

/-- The bundle of a spec. -/
def bundle? (snapshot : Snapshot) (key : QualifiedName) : Option Bundle :=
  snapshot.bundles.find? key

/-- The encoded resources of a type, in the order of the specs. -/
def resources (snapshot : Snapshot) (type : ResourceType) : List Resource :=
  snapshot.bundles.values.flatMap (·.resources type)

/-- The names of the resources of a type, in the order of the specs. -/
def resourceNames (snapshot : Snapshot) (type : ResourceType) : List String :=
  snapshot.bundles.values.flatMap (·.resourceNames type)

/-- The encoded resources of all types, each under the URL of its type. They are made once and kept,
and reading them is the same as encoding them again. -/
def encoded (snapshot : Snapshot) : List (String × List Resource) :=
  ResourceType.all.map fun type => (type.url, snapshot.resources type)

/-- The encoded resources of the type that a URL names. -/
def resourcesByUrl (snapshot : Snapshot) (url : String) : List Resource :=
  ((ResourceType.ofUrl? url).map snapshot.resources).getD []

/-- The names of the resources of the type that a URL names. -/
def resourceNamesByUrl (snapshot : Snapshot) (url : String) : List String :=
  ((ResourceType.ofUrl? url).map snapshot.resourceNames).getD []

/-- The number of resources of all types. -/
def resourceCount (snapshot : Snapshot) : Nat :=
  (snapshot.bundles.values.map (·.resourceCount)).foldr (· + ·) 0

/-- There are no bundles. -/
def isEmpty (snapshot : Snapshot) : Bool :=
  snapshot.bundles.entries.isEmpty

/-- The version as proxies are told of it. -/
def versionInfo (snapshot : Snapshot) : String :=
  toString snapshot.version

end Snapshot

/-- Runs a check on each item in turn until one fails. -/
def checkEach {α ε : Type} (check : α → Except ε Unit) : List α → Except ε Unit
  | [] => .ok ()
  | a :: rest =>
    match check a with
    | .ok () => checkEach check rest
    | .error e => .error e

/-- The clusters that a route names to send requests to. A route whose clusters are chosen in another
way names none, and neither does one that forwards nothing. -/
def RouteEntry.referencedClusters (route : RouteEntry) : List String :=
  match route.action with
  | some (.forward action) =>
    match action.specifier with
    | some (.single name) => [name]
    | some (.weighted clusters _) => clusters.map (·.name)
    | _ => []
  | _ => []

/-- The clusters that the routes of all virtual hosts send requests to. -/
def RouteConfiguration.referencedClusters (config : RouteConfiguration) : List String :=
  config.virtualHosts.flatMap fun host => host.routes.flatMap (·.referencedClusters)

/-- The name by which the endpoints of a cluster are fetched. -/
def Cluster.assignmentName (cluster : Cluster) : String :=
  ((cluster.discovery.map (·.serviceName)).filter (· ≠ "")).getD cluster.name

namespace Snapshot

/-- No two resources of a type have the same name. -/
def checkNames (snapshot : Snapshot) (type : ResourceType) : Except InternalCause Unit :=
  match firstRepeated? [] (snapshot.resourceNames type) with
  | some name => .error (.repeatedName snapshot.version name type.url)
  | none => .ok ()

/-- There is a resource of a type with the name that something refers to. -/
def checkReference (snapshot : Snapshot) (type : ResourceType) (source target : String) :
    Except InternalCause Unit :=
  if (snapshot.resourceNames type).contains target then .ok ()
  else .error (.danglingReference snapshot.version source target)

/-- A bundle's listener asks for a route configuration of the snapshot. -/
def checkListener (decode : Wire.Bytes → Option ConnectionManager) (snapshot : Snapshot)
    (bundle : Bundle) : Except InternalCause Unit :=
  match bundle.listener.routeConfigNameBy decode with
  | .error cause => .error cause
  | .ok none => .error (.listenerWithoutRoutes bundle.listener.name)
  | .ok (some name) => snapshot.checkReference .routeConfiguration bundle.listener.name name

/-- The references of one bundle lead to resources of the snapshot. -/
def checkBundle (decode : Wire.Bytes → Option ConnectionManager) (snapshot : Snapshot)
    (bundle : Bundle) : Except InternalCause Unit := do
  snapshot.checkListener decode bundle
  checkEach (snapshot.checkReference .cluster bundle.routeConfiguration.name)
    bundle.routeConfiguration.referencedClusters
  checkEach
    (fun cluster => snapshot.checkReference .loadAssignment cluster.name cluster.assignmentName)
    bundle.clusters

/-- Names are unique within each type, and every reference leads to a resource of the snapshot. Which
route configuration a listener refers to is read from its manager by `decode`. -/
def checkBy (decode : Wire.Bytes → Option ConnectionManager) (snapshot : Snapshot) :
    Except InternalCause Unit := do
  checkEach snapshot.checkNames ResourceType.all
  checkEach (snapshot.checkBundle decode) snapshot.bundles.values

/-- The check of a snapshot before it is published. -/
def check (snapshot : Snapshot) : Except InternalCause Unit :=
  snapshot.checkBy ConnectionManager.decode?

end Snapshot

end TrafficPlane
