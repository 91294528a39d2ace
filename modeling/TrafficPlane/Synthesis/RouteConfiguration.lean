import TrafficPlane.Resource.Message
import TrafficPlane.Routing.Table

/-!
# Rendered route configurations

A route table as the message that proxies fetch: one virtual host with a route for each route of the
table, which spreads requests over weighted clusters.

## Main definitions

* `RequestMatcher.render`: the criteria of a route
* `Route.render`, `RouteTable.render`
-/

namespace TrafficPlane

/-- The expression's source, for the proxy to compile on its own. -/
def CompiledRegex.render (regex : CompiledRegex) : SafeRegex where
  source := regex.source

/-- The path criterion of a message. -/
def PathMatcher.render : PathMatcher → PathTest
  | .leading text => .leading text
  | .exact text => .exact text
  | .regex compiled => .regex compiled.render

/-- The header criterion of a message. -/
def HeaderCriterion.render : HeaderCriterion → HeaderTest
  | .exact text => .exact text
  | .regex compiled => .regex compiled.render
  | .range bounds => .range bounds
  | .present expected => .present expected
  | .leading text => .leading text
  | .trailing text => .trailing text

/-- The header match of a message. -/
def HeaderMatcher.render (matcher : HeaderMatcher) : HeaderMatch where
  name := matcher.name
  test := matcher.criterion.render
  invert := matcher.invert

/-- The route match of a message. -/
def RequestMatcher.render (matcher : RequestMatcher) : RouteMatch where
  path := matcher.path.render
  caseSensitive := matcher.caseSensitive
  headers := matcher.headers.map HeaderMatcher.render
  fraction := matcher.fraction.map fun fraction => { fraction }

/-- The limits of a route, if it has any. -/
def Route.limits (route : Route) : Option StreamLimits :=
  if route.maxStreamMillis.isNone && route.grpcTimeoutMaxMillis.isNone then none
  else some {
    maxStream := route.maxStreamMillis.map TimeSpan.ofMillis
    grpcTimeoutMax := route.grpcTimeoutMaxMillis.map TimeSpan.ofMillis }

/-- The sum of the weights as a message gives it: a sum of zero is left out. -/
def Route.renderedTotal (route : Route) : Option UInt32 :=
  if route.totalWeight = 0 ∨ maxTotalWeight < route.totalWeight then none
  else some (.ofNat route.totalWeight)

/-- The route of a message. -/
def Route.render (route : Route) : RouteEntry where
  criteria := route.matcher.render
  action := some (.forward {
    specifier := some (.weighted
      (route.targets.map fun target => { name := target.cluster, weight := target.weight })
      route.renderedTotal)
    limits := route.limits })

/-- The route configuration of a table. Proxies are to check that its clusters exist. -/
def RouteTable.render (table : RouteTable) : RouteConfiguration where
  name := table.name
  virtualHosts := [{
    name := table.virtualHost
    domains := table.domains
    routes := table.routes.map Route.render }]
  validateClusters := true

end TrafficPlane
