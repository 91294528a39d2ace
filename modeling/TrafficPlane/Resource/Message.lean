import TrafficPlane.Routing.Matcher
import TrafficPlane.Wire.Field

/-!
# Messages of generated resources

The resources that proxies fetch: listeners, route configurations, clusters and load assignments,
with the messages that they are made of.

## Main definitions

* `Listener`, `RouteConfiguration`, `Cluster`, `LoadAssignment`
* `Packed`: a message within a message, with the URL of its type
-/

namespace TrafficPlane

open Wire

/-- A span of time. -/
structure TimeSpan where
  seconds : Int64
  nanos : Int32
deriving DecidableEq, Repr, Inhabited

/-- The span of a number of milliseconds. -/
def TimeSpan.ofMillis (millis : UInt64) : TimeSpan where
  seconds := .ofNat (millis.toNat / 1000)
  nanos := .ofNat (millis.toNat % 1000 * 1000000)

/-- The bytes of a message with the URL of its type. -/
structure Packed where
  typeUrl : String := ""
  value : Bytes := []
deriving DecidableEq, Repr, Inhabited

/-- Where a proxy fetches the resources that a message refers to. -/
structure ConfigSource where
  /-- From the stream on which the message itself came. -/
  aggregated : Bool := false
  apiVersion : Int32 := 0
deriving DecidableEq, Repr, Inhabited

/-- The source of all generated references: the aggregated stream, in version three. -/
def ConfigSource.stream : ConfigSource where
  aggregated := true
  apiVersion := 2

/-- The part of a listener that clients without a proxy use. -/
structure ApiListener where
  manager : Option Packed := none
deriving DecidableEq, Repr, Inhabited

/-- A listener. -/
structure Listener where
  name : String
  api : Option ApiListener := none
deriving DecidableEq, Repr, Inhabited

/-- A regular expression in a message. -/
structure SafeRegex where
  source : String
  /-- The engine is named, and it is RE2. -/
  googleRe2 : Bool := true
deriving DecidableEq, Repr, Inhabited

/-- The path criterion of a route match. -/
inductive PathTest where
  | leading (text : String)
  | exact (text : String)
  | regex (expression : SafeRegex)
deriving DecidableEq, Repr

/-- The criterion of a header match. -/
inductive HeaderTest where
  | exact (text : String)
  | leading (text : String)
  | trailing (text : String)
  | regex (expression : SafeRegex)
  | range (bounds : IntegerRange)
  | present (expected : Bool)
deriving DecidableEq, Repr

/-- A match on one header. -/
structure HeaderMatch where
  name : String
  test : HeaderTest
  invert : Bool := false
deriving DecidableEq, Repr

/-- The part of the traffic that a match admits, unless the runtime has another one under the
key. -/
structure RuntimeFraction where
  fraction : Fraction
  runtimeKey : String := ""
deriving DecidableEq, Repr

/-- The requests that a route takes. -/
structure RouteMatch where
  path : PathTest
  caseSensitive : Bool
  headers : List HeaderMatch
  fraction : Option RuntimeFraction
deriving DecidableEq, Repr

/-- A cluster with its share of the traffic. -/
structure ClusterWeight where
  name : String
  weight : UInt32
deriving DecidableEq, Repr

/-- The clusters that a route sends traffic to. -/
inductive ClusterSpecifier where
  | single (name : String)
  | weighted (clusters : List ClusterWeight) (total : Option UInt32)
  /-- The cluster that a header of the request names. -/
  | byHeader (header : String)
  /-- The cluster that a plugin chooses, which is declared elsewhere. -/
  | byPlugin (name : String)
  /-- The cluster that a plugin chooses, which is declared in place. -/
  | byInlinePlugin
deriving DecidableEq, Repr

/-- Limits on how long a stream may last. -/
structure StreamLimits where
  maxStream : Option TimeSpan
  grpcTimeoutMax : Option TimeSpan
deriving DecidableEq, Repr

/-- An action that forwards requests. -/
structure ForwardAction where
  specifier : Option ClusterSpecifier
  limits : Option StreamLimits
deriving DecidableEq, Repr

/-- What a route does with a request. -/
inductive RouteAction where
  | forward (action : ForwardAction)
  /-- Answers with another address. -/
  | redirect
  /-- Answers with a fixed response. -/
  | respond
  /-- Leaves the request to a filter. -/
  | filter
  /-- Takes the request itself, as a route of a listener for incoming traffic. -/
  | accept
deriving DecidableEq, Repr

/-- A route of a virtual host. -/
structure RouteEntry where
  criteria : RouteMatch
  action : Option RouteAction
deriving DecidableEq, Repr

/-- The routes of some domains. -/
structure VirtualHost where
  name : String
  domains : List String
  routes : List RouteEntry
deriving DecidableEq, Repr

/-- A route configuration. -/
structure RouteConfiguration where
  name : String
  virtualHosts : List VirtualHost
  validateClusters : Bool
deriving DecidableEq, Repr

/-- Where the endpoints of a cluster are fetched. -/
structure EndpointDiscovery where
  source : ConfigSource
  serviceName : String
deriving DecidableEq, Repr

/-- A cluster whose endpoints are discovered, with requests spread round robin. -/
structure Cluster where
  name : String
  discovery : Option EndpointDiscovery
deriving DecidableEq, Repr

/-- An address that requests can be sent to. -/
structure Endpoint where
  address : String
  port : UInt16
deriving DecidableEq, Repr, Inhabited

/-- The endpoints of one locality. -/
structure LocalityGroup where
  subZone : String
  endpoints : List Endpoint
  weight : UInt32
  priority : UInt32
deriving DecidableEq, Repr

/-- The endpoints of a cluster. -/
structure LoadAssignment where
  clusterName : String
  localities : List LocalityGroup
deriving DecidableEq, Repr

end TrafficPlane
