import TrafficPlane.Proofs.Stages

/-!
# What synthesis reads of a membership

A spec names the services that its requests are spread over, each in a namespace that is its own
unless the reference names another one. Synthesis looks up these services and no others, so what
endpoints any other service has is no concern of the spec.

## Main definitions

* `ClusterSpec.services`, `RoutingSpec.services`: the services that a declaration refers to

## Main results

* `Locality.resolve_congr`, `ClusterSpec.resolve_congr`: localities and clusters are resolved alike
  where the services they refer to are
* `Bundle.synthesize_congr`: memberships that agree on the services of a spec give it the same
  bundle or the same fault
-/

namespace TrafficPlane

variable {index index' : MembershipIndex} {space : String}

/-- The services that the localities of a cluster refer to, in the given namespace unless they name
another one. -/
def ClusterSpec.services (space : String) (cluster : ClusterSpec) : List QualifiedName :=
  cluster.localities.filterMap fun locality => locality.service.map (·.key space)

/-- The services that a spec refers to. -/
def RoutingSpec.services (spec : RoutingSpec) : List QualifiedName :=
  spec.clusters.flatMap (·.services spec.space)

/-- The services of a spec are those that its localities refer to, in the namespace of the spec
unless the reference names another one. -/
theorem RoutingSpec.mem_services_iff {spec : RoutingSpec} {service : QualifiedName} :
    service ∈ spec.services ↔ ∃ cluster ∈ spec.clusters, ∃ locality ∈ cluster.localities,
      ∃ ref, locality.service = some ref ∧ ref.key spec.space = service := by
  simp only [services, ClusterSpec.services, List.mem_flatMap, List.mem_filterMap,
    Option.map_eq_some_iff]

/-- A locality is resolved alike where its service is found alike. -/
theorem Locality.resolve_congr {locality : Locality}
    (h : ∀ ref, locality.service = some ref →
      index.find? (ref.key space) = index'.find? (ref.key space)) :
    locality.resolve index space = locality.resolve index' space := by
  rw [resolve, resolve]
  cases hservice : locality.service with
  | none => rfl
  | some ref =>
    dsimp only
    rw [h ref hservice]

/-- A cluster is resolved alike where its services are found alike. -/
theorem ClusterSpec.resolve_congr {cluster : ClusterSpec}
    (h : ∀ service ∈ cluster.services space, index.find? service = index'.find? service) :
    cluster.resolve index space = cluster.resolve index' space := by
  have hlocality : ∀ locality ∈ cluster.localities,
      cluster.resolveLocality index space locality =
        cluster.resolveLocality index' space locality := by
    intro locality hmem
    have hresolve : locality.resolve index space = locality.resolve index' space := by
      refine Locality.resolve_congr fun ref href => h (ref.key space) ?_
      exact List.mem_filterMap.mpr ⟨locality, hmem, by rw [href]; rfl⟩
    rw [resolveLocality, resolveLocality, hresolve]
  rw [resolve, resolve, mapM_congr hlocality]

theorem LoadAssignment.ofCluster_congr {name : String} {cluster : ClusterSpec}
    (h : ∀ service ∈ cluster.services space, index.find? service = index'.find? service) :
    LoadAssignment.ofCluster index space name cluster =
      LoadAssignment.ofCluster index' space name cluster := by
  rw [ofCluster, ofCluster, ClusterSpec.resolve_congr h]

/-- Synthesis looks up the services of its spec only. -/
theorem Bundle.synthesize_congr {spec : RoutingSpec}
    (h : ∀ service ∈ spec.services, index.find? service = index'.find? service) :
    Bundle.synthesize spec index = Bundle.synthesize spec index' := by
  have hassignments : ∀ cluster ∈ spec.clusters,
      LoadAssignment.ofCluster index spec.space (ResourceName.cluster spec.key cluster.name)
          cluster =
        LoadAssignment.ofCluster index' spec.space (ResourceName.cluster spec.key cluster.name)
          cluster :=
    fun cluster hcluster => LoadAssignment.ofCluster_congr fun service hservice =>
      h service (List.mem_flatMap.mpr ⟨cluster, hcluster, hservice⟩)
  rw [synthesize, synthesize]
  dsimp only
  rw [mapM_congr hassignments]

end TrafficPlane
