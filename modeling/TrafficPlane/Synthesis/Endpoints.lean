import TrafficPlane.Fault
import TrafficPlane.Resource.Message
import TrafficPlane.Spec.Membership

/-!
# Endpoints of clusters

The localities of a cluster are looked up in the membership of the services that they name. A
cluster has endpoints only if every one of its localities does.

## Main definitions

* `Locality.resolve`: the endpoints of one locality
* `ClusterSpec.resolve`: the endpoints of all localities of a cluster
* `LoadAssignment.ofCluster`, `Cluster.ofName`: the resources of a cluster
-/

namespace TrafficPlane

/-- The endpoints of one locality, with the service that they belong to. -/
structure ResolvedLocality where
  service : QualifiedName
  endpoints : List Endpoint
  weight : UInt32
  priority : UInt32
deriving DecidableEq, Repr

/-- The endpoints of a subset at the port that a reference selects. -/
def Subset.endpoints (service : QualifiedName) (ref : PortRef) (subset : Subset) :
    Except ResolutionCause (List Endpoint) :=
  match subset.port? ref with
  | some port => .ok (subset.addresses.map fun address => { address, port })
  | none => .error (.portNotFound ref service)

/-- The name of the service that a reference means, in the given namespace unless it names one. -/
def ServiceRef.key (ref : ServiceRef) (space : String) : QualifiedName :=
  ⟨ref.space.getD space, ref.name⟩

/-- The endpoints of a locality, whose service is looked up in the given namespace unless it names
one. -/
def Locality.resolve (index : MembershipIndex) (space : String) (locality : Locality) :
    Except Fault ResolvedLocality :=
  match locality.service with
  | none => .error (.config .localityWithoutService)
  | some ref =>
    let service := ref.key space
    match index.find? service with
    | none => .error (.resolution (.noEndpoints service))
    | some membership =>
      match membership.subsets.mapM (Subset.endpoints service ref.port) with
      | .error cause => .error (.resolution cause)
      | .ok endpoints => .ok {
          service
          endpoints := endpoints.flatten
          weight := locality.weight
          priority := locality.priority }

/-- The priorities in ascending order, each once. -/
def ClusterSpec.priorities (spec : ClusterSpec) : List UInt32 :=
  ((spec.localities.map (·.priority)).mergeSort (· ≤ ·)).eraseDups

/-- The priorities start at zero and leave no number out. -/
def ClusterSpec.contiguous (spec : ClusterSpec) : Bool :=
  spec.priorities.zipIdx.all fun (priority, place) => priority.toNat == place

/-- The fault of a locality as a fault of its cluster. -/
def Fault.inCluster (cluster : String) : Fault → Fault
  | .config cause => .config (.inCluster cluster cause)
  | .resolution cause => .resolution (.inCluster cluster cause)
  | fault => fault

/-- A locality of a cluster, whose fault names the cluster. -/
def ClusterSpec.resolveLocality (index : MembershipIndex) (space : String) (spec : ClusterSpec)
    (locality : Locality) : Except Fault ResolvedLocality :=
  match locality.resolve index space with
  | .ok resolved => .ok resolved
  | .error fault => .error (fault.inCluster spec.name)

/-- The endpoints of all localities of a cluster. -/
def ClusterSpec.resolve (index : MembershipIndex) (space : String) (spec : ClusterSpec) :
    Except Fault (List ResolvedLocality) :=
  if spec.localities.isEmpty then .error (.config (.clusterWithoutLocalities spec.name))
  else if !spec.contiguous then .error (.config (.priorityGap spec.name spec.priorities))
  else spec.localities.mapM (spec.resolveLocality index space)

/-- The endpoints of a locality as a part of a load assignment. -/
def ResolvedLocality.render (locality : ResolvedLocality) : LocalityGroup where
  subZone := locality.service.name
  endpoints := locality.endpoints
  weight := locality.weight
  priority := locality.priority

/-- The load assignment of a cluster under its generated name. -/
def LoadAssignment.ofCluster (index : MembershipIndex) (space name : String) (spec : ClusterSpec) :
    Except Fault LoadAssignment :=
  match spec.resolve index space with
  | .ok localities => .ok {
      clusterName := name
      localities := localities.map ResolvedLocality.render }
  | .error fault => .error fault

/-- The cluster of a generated name, whose endpoints are fetched by the same name. -/
def Cluster.ofName (name : String) : Cluster where
  name
  discovery := some { source := .stream, serviceName := name }

end TrafficPlane
