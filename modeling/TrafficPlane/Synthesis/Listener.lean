import TrafficPlane.Resource.ConnectionManager
import TrafficPlane.Spec.Routing
import TrafficPlane.Text.Blank

/-!
# Generated listeners

One listener is generated for each spec. Its connection manager fetches the routes of the spec from
the stream that the listener itself came on.

## Main definitions

* `Listener.ofSpec`: the listener of a spec
-/

namespace TrafficPlane

open Wire

/-- The filter that routes requests, which comes last in every manager. -/
def HttpFilter.router : HttpFilter where
  name := "envoy.filters.http.router"
  config := some {
    typeUrl := "type.googleapis.com/envoy.extensions.filters.http.router.v3.Router" }

/-- The manager that fetches a route configuration. -/
def ConnectionManager.ofRoutes (routeConfig : String) (maxStreamMillis : Option UInt64) :
    ConnectionManager where
  routes := some (.discovery { source := some .stream, routeConfigName := routeConfig })
  filters := [.router]
  options := maxStreamMillis.map fun millis => { maxStream := some (.ofMillis millis) }

/-- The listener with a manager. -/
def Listener.ofManager (name : String) (manager : ConnectionManager) : Listener where
  name
  api := some {
    manager := some {
      typeUrl := ConnectionManager.typeUrl
      value := encodeFields manager.fields } }

/-- The listener of a spec, which has to name one, with its routes in a route configuration. -/
def Listener.ofSpec (spec : RoutingSpec) (routeConfig : String) : Except ConfigCause Listener :=
  if Text.trim spec.listener = "" then .error (.namelessListener spec.key)
  else .ok (.ofManager spec.listener (.ofRoutes routeConfig spec.maxStreamMillis))

end TrafficPlane
