import TrafficPlane.Spec.QualifiedName

/-!
# Routing specs

What the operator of a service declares: the listener that serves it, an ordered list of routes, and
the clusters that the routes send traffic to.

## Main definitions

* `RoutingSpec`: one service, with its `RouteSpec`s and `ClusterSpec`s
* `PathSpec`, `HeaderSpec`, `FractionSpec`: the criteria of a route
* `Locality`, `ServiceRef`, `PortRef`: where a cluster finds its endpoints
-/

namespace TrafficPlane

/-- The namespace of documents that name none. -/
def defaultSpace : String := "default"

/-- A regular expression and the engine that it is written for. -/
structure RegexSpec where
  source : String
  engine : String := "re2"
deriving DecidableEq, Repr, Inhabited

/-- Criteria on the path of a request. -/
structure PathSpec where
  leading : Option String := none
  exact : Option String := none
  regex : Option RegexSpec := none
deriving DecidableEq, Repr, Inhabited

/-- The path starts with the text. -/
def PathSpec.ofLeading (text : String) : PathSpec := { leading := some text }

/-- The path is the text. -/
def PathSpec.ofExact (text : String) : PathSpec := { exact := some text }

/-- The path matches the regular expression. -/
def PathSpec.ofRegex (source : String) : PathSpec := { regex := some { source } }

/-- The integers from `start` up to `stop`, which is left out. -/
structure IntegerRange where
  start : Int64
  stop : Int64
deriving DecidableEq, Repr, Inhabited

/-- Criteria on one header of a request. A valid one sets a single criterion. -/
structure HeaderSpec where
  name : String
  exact : Option String := none
  regex : Option RegexSpec := none
  range : Option IntegerRange := none
  present : Option Bool := none
  leading : Option String := none
  trailing : Option String := none
  invert : Bool := false
deriving DecidableEq, Repr, Inhabited

/-- The header's value is the text. -/
def HeaderSpec.ofExact (name text : String) : HeaderSpec := { name, exact := some text }

/-- The header is there. -/
def HeaderSpec.ofPresent (name : String) : HeaderSpec := { name, present := some true }

/-- The header's value starts with the text. -/
def HeaderSpec.ofLeading (name text : String) : HeaderSpec := { name, leading := some text }

/-- The header's value ends with the text. -/
def HeaderSpec.ofTrailing (name text : String) : HeaderSpec := { name, trailing := some text }

/-- The part of the traffic that a route admits. -/
structure FractionSpec where
  numerator : UInt32
  denominator : String
deriving DecidableEq, Repr, Inhabited

/-- A cluster of the same spec, with its share of a route's traffic. -/
structure ClusterRef where
  name : String
  weight : UInt32 := 1
deriving DecidableEq, Repr, Inhabited

/-- One route: the requests that it takes and where it sends them. -/
structure RouteSpec where
  path : PathSpec := {}
  caseSensitive : Bool := true
  headers : List HeaderSpec := []
  fraction : Option FractionSpec := none
  clusters : List ClusterRef := []
  maxStreamMillis : Option UInt64 := none
  grpcTimeoutMaxMillis : Option UInt64 := none
deriving DecidableEq, Repr, Inhabited

/-- The route that takes every request and sends it to one cluster. -/
def RouteSpec.toCluster (cluster : String) : RouteSpec := { clusters := [{ name := cluster }] }

/-- A port of a service, by the name or by the number that its membership declares. -/
inductive PortRef where
  | named (name : String)
  | numbered (number : UInt16)
deriving DecidableEq, Repr, Inhabited

/-- The service whose membership stands behind a locality. Without a namespace it is looked up in
that of the spec. -/
structure ServiceRef where
  name : String
  space : Option String := none
  port : PortRef
deriving DecidableEq, Repr, Inhabited

/-- A weighted group of endpoints with a priority. -/
structure Locality where
  weight : UInt32 := 1
  priority : UInt32 := 0
  service : Option ServiceRef := none
deriving DecidableEq, Repr, Inhabited

/-- A cluster and the localities that serve it. -/
structure ClusterSpec where
  name : String
  localities : List Locality := []
deriving DecidableEq, Repr, Inhabited

/-- One service: its listener, its routes in order, and its clusters. -/
structure RoutingSpec where
  name : String
  space : String := defaultSpace
  listener : String
  maxStreamMillis : Option UInt64 := none
  routes : List RouteSpec := []
  clusters : List ClusterSpec := []
deriving DecidableEq, Repr, Inhabited

/-- The name that the spec goes by. -/
def RoutingSpec.key (spec : RoutingSpec) : QualifiedName :=
  ⟨spec.space, spec.name⟩

end TrafficPlane
