import TrafficPlane.Resource.Message

/-!
# Fields of the messages

The numbers of the fields of each message, and what is left out of it. Fields are in ascending
order of their numbers, where alternatives stand at the smallest number that one of them has.

## Main definitions

* `Listener.fields`, `RouteConfiguration.fields`, `Cluster.fields`, `LoadAssignment.fields`
-/

namespace TrafficPlane

open Wire

/-- A signed number as its remainder modulo a power of two. -/
def signedNumber (n : Int) : Nat :=
  (n % 18446744073709551616).toNat

/-- The fields of a span of time. -/
def TimeSpan.fields (span : TimeSpan) : List MessageField :=
  number 1 (signedNumber span.seconds.toInt) ++ number 2 (signedNumber span.nanos.toInt)

/-- The fields of a packed message. -/
def Packed.fields (packed : Packed) : List MessageField :=
  text 1 packed.typeUrl ++ if packed.value.isEmpty then [] else [⟨2, .bytes packed.value⟩]

/-- The fields of a truth value that is a message. -/
def boolFields (b : Bool) : List MessageField := flag 1 b

/-- The fields of a number that is a message. -/
def numberFields (n : Nat) : List MessageField := number 1 n

/-- The fields of a source. -/
def ConfigSource.fields (source : ConfigSource) : List MessageField :=
  (if source.aggregated then [message 3 []] else []) ++
    number 6 (signedNumber source.apiVersion.toInt)

/-- The fields of an API listener. -/
def ApiListener.fields (api : ApiListener) : List MessageField :=
  optional 1 (api.manager.map Packed.fields)

/-- The fields of a listener. -/
def Listener.fields (listener : Listener) : List MessageField :=
  text 1 listener.name ++ optional 19 (listener.api.map ApiListener.fields)

/-- The fields of a regular expression. -/
def SafeRegex.fields (regex : SafeRegex) : List MessageField :=
  (if regex.googleRe2 then [message 1 []] else []) ++ text 2 regex.source

/-- The field of a path criterion. -/
def PathTest.field : PathTest → MessageField
  | .leading text => presentText 1 text
  | .exact text => presentText 2 text
  | .regex expression => message 10 expression.fields

/-- The field of a header criterion. -/
def HeaderTest.field : HeaderTest → MessageField
  | .exact text => message 13 [presentText 1 text]
  | .leading text => message 13 [presentText 2 text]
  | .trailing text => message 13 [presentText 3 text]
  | .regex expression => message 13 [message 5 expression.fields]
  | .range bounds => message 6
      (number 1 (signedNumber bounds.start.toInt) ++ number 2 (signedNumber bounds.stop.toInt))
  | .present expected => ⟨7, .varint expected.toNat⟩

/-- The fields of a header match. -/
def HeaderMatch.fields (header : HeaderMatch) : List MessageField :=
  text 1 header.name ++ [header.test.field] ++ flag 8 header.invert

/-- The number that stands for a denominator. -/
def Denominator.code : Denominator → Nat
  | .hundred => 0
  | .tenThousand => 1
  | .million => 2

/-- The fields of a fraction of the traffic. -/
def RuntimeFraction.fields (fraction : RuntimeFraction) : List MessageField :=
  message 1
      (number 1 fraction.fraction.numerator.toNat ++
        number 2 fraction.fraction.denominator.code) ::
    text 2 fraction.runtimeKey

/-- The fields of a route match. -/
def RouteMatch.fields (criteria : RouteMatch) : List MessageField :=
  [criteria.path.field, message 4 (boolFields criteria.caseSensitive)] ++
    criteria.headers.map (fun header => message 6 header.fields) ++
    optional 9 (criteria.fraction.map RuntimeFraction.fields)

/-- The fields of a weighted cluster. -/
def ClusterWeight.fields (cluster : ClusterWeight) : List MessageField :=
  text 1 cluster.name ++ [message 2 (numberFields cluster.weight.toNat)]

/-- The field of the clusters of a route. -/
def ClusterSpecifier.field : ClusterSpecifier → MessageField
  | .single name => presentText 1 name
  | .weighted clusters total => message 3
      (clusters.map (fun cluster => message 1 cluster.fields) ++
        optional 3 (total.map fun n => numberFields n.toNat))
  | .byHeader header => presentText 2 header
  | .byPlugin name => presentText 37 name
  | .byInlinePlugin => message 39 []

/-- The fields of limits on streams. -/
def StreamLimits.fields (limits : StreamLimits) : List MessageField :=
  optional 1 (limits.maxStream.map TimeSpan.fields) ++
    optional 2 (limits.grpcTimeoutMax.map TimeSpan.fields)

/-- The fields of an action that forwards. -/
def ForwardAction.fields (action : ForwardAction) : List MessageField :=
  (action.specifier.map ClusterSpecifier.field).toList ++
    optional 36 (action.limits.map StreamLimits.fields)

/-- The field of an action. -/
def RouteAction.field : RouteAction → MessageField
  | .forward action => message 2 action.fields
  | .redirect => message 3 []
  | .respond => message 7 []
  | .filter => message 17 []
  | .accept => message 18 []

/-- The fields of a route. -/
def RouteEntry.fields (route : RouteEntry) : List MessageField :=
  message 1 route.criteria.fields :: (route.action.map RouteAction.field).toList

/-- The fields of a virtual host. -/
def VirtualHost.fields (host : VirtualHost) : List MessageField :=
  text 1 host.name ++ host.domains.map (presentText 2) ++
    host.routes.map (fun route => message 3 route.fields)

/-- The fields of a route configuration. -/
def RouteConfiguration.fields (config : RouteConfiguration) : List MessageField :=
  text 1 config.name ++ config.virtualHosts.map (fun host => message 2 host.fields) ++
    [message 7 (boolFields config.validateClusters)]

/-- The fields of where endpoints are fetched. -/
def EndpointDiscovery.fields (discovery : EndpointDiscovery) : List MessageField :=
  message 1 discovery.source.fields :: text 2 discovery.serviceName

/-- The fields of a cluster. Number three stands for discovered endpoints, and round robin for
zero, which is left out. -/
def Cluster.fields (cluster : Cluster) : List MessageField :=
  text 1 cluster.name ++ [⟨2, .varint 3⟩] ++
    optional 3 (cluster.discovery.map EndpointDiscovery.fields)

/-- The fields of an endpoint, down to its socket address over TCP. -/
def Endpoint.fields (endpoint : Endpoint) : List MessageField :=
  [message 1 [message 1 [message 1
    (text 2 endpoint.address ++ [⟨3, .varint endpoint.port.toNat⟩])]]]

/-- The fields of a locality. -/
def LocalityGroup.fields (group : LocalityGroup) : List MessageField :=
  message 1 (text 3 group.subZone) ::
    group.endpoints.map (fun endpoint => message 2 endpoint.fields) ++
    [message 3 (numberFields group.weight.toNat)] ++ number 5 group.priority.toNat

/-- The fields of a load assignment. -/
def LoadAssignment.fields (assignment : LoadAssignment) : List MessageField :=
  text 1 assignment.clusterName ++
    assignment.localities.map (fun group => message 2 group.fields)

end TrafficPlane
