import TrafficPlane.Proofs.Bundle
import TrafficPlane.Proofs.Priorities

/-!
# Specs that are accepted

Synthesis goes through a spec in stages and stops at the first one that fails. Which specs pass all
of them, under which memberships, is said here without regard to the order of the stages.

## Main definitions

* `RouteSpec.Acceptable`, `ClusterSpec.Acceptable`: what a route and a cluster have to declare
* `RoutingSpec.Acceptable`: what a spec has to declare, under a membership
* `Fault.OfSpec`: a fault of configuration or of resolution

## Main results

* `Route.exists_compile_iff`: a route is checked if it is acceptable
* `ClusterSpec.exists_resolve_iff`: a cluster has endpoints if it is acceptable
* `Bundle.exists_synthesize_iff`: a spec has a bundle if it is acceptable
* `Bundle.synthesize_eq_error_cases`: where synthesis fails
* `Bundle.ofSpec_of_synthesize`: faults of synthesis are those of the spec
* `Bundle.synthesize_accepts_iff`: which specs are accepted, and how the others are rejected
-/

namespace TrafficPlane

variable {spec : RoutingSpec} {index : MembershipIndex} {space : String}

/-! ### What is acceptable -/

/-- The criteria of a route can be checked, its references are declared, and its weights add up to
no more than the message can carry. -/
structure RouteSpec.Acceptable (spec : RoutingSpec) (route : RouteSpec) : Prop where
  clusters_ne_nil : route.clusters ≠ []
  criteria : ∃ matcher, RequestMatcher.compile route = .ok matcher
  declared : ∀ ref ∈ route.clusters, ∃ cluster ∈ spec.clusters, cluster.name = ref.name
  weights_le : (route.clusters.map (·.weight.toNat)).sum ≤ 4294967295

/-- A subset has a port with the name, or with the number, that a reference gives. -/
def PortRef.FoundIn (ref : PortRef) (subset : Subset) : Prop :=
  match ref with
  | .named name => ∃ port ∈ subset.ports, port.name = some name
  | .numbered number => ∃ port ∈ subset.ports, port.number = number

/-- A locality refers to a service whose membership is there, with the port in every subset. The
service is that of the given namespace unless the reference names one. -/
def Locality.Acceptable (index : MembershipIndex) (space : String) (locality : Locality) : Prop :=
  ∃ ref, locality.service = some ref ∧
    ∃ membership, index.find? ⟨ref.space.getD space, ref.name⟩ = some membership ∧
      ∀ subset ∈ membership.subsets, ref.port.FoundIn subset

/-- A cluster has localities, all of them acceptable, whose priorities have no gaps. -/
structure ClusterSpec.Acceptable (index : MembershipIndex) (space : String)
    (cluster : ClusterSpec) : Prop where
  localities_ne_nil : cluster.localities ≠ []
  priorities : ∀ locality ∈ cluster.localities, ∀ smaller < locality.priority,
    ∃ other ∈ cluster.localities, other.priority = smaller
  localities : ∀ locality ∈ cluster.localities, locality.Acceptable index space

/-- A spec names its listener and its clusters, and all its routes and clusters are acceptable. -/
structure RoutingSpec.Acceptable (spec : RoutingSpec) (index : MembershipIndex) : Prop where
  distinct : (spec.clusters.map (·.name)).Nodup
  routes : ∀ route ∈ spec.routes, route.Acceptable spec
  listener : Text.trim spec.listener ≠ ""
  clusters : ∀ cluster ∈ spec.clusters, cluster.Acceptable index spec.space

/-! ### Routes -/

/-- A route's weights are those of its references. -/
theorem Route.totalWeight_eq {place : Nat} {refs : List ClusterRef} {route : Route}
    (h : List.Forall₂ (fun ref target => Route.target spec place ref = .ok target) refs
      route.targets) : route.totalWeight = (refs.map (·.weight.toNat)).sum := by
  have hweights : route.targets.map (·.weight.toNat) = refs.map (·.weight.toNat) := by
    refine map_results_eq h fun ref target htarget => ?_
    obtain ⟨-, rfl⟩ := Route.target_eq_ok_iff.mp htarget
    rfl
  rw [Route.totalWeight, hweights, List.sum]

/-- A route is checked just when it is acceptable. -/
theorem Route.exists_compile_iff {place : Nat} {declared : RouteSpec} :
    (∃ route, Route.compile spec place declared = .ok route) ↔ declared.Acceptable spec := by
  simp only [Route.compile_eq_ok_iff]
  constructor
  · rintro ⟨route, hclusters, hmatcher, htargets, -, -, hweight⟩
    refine ⟨hclusters, ⟨_, hmatcher⟩, ?_, Route.totalWeight_eq htargets ▸ hweight⟩
    intro ref href
    obtain ⟨target, htarget⟩ := exists_mapM_iff.mp ⟨_, mapM_eq_ok_iff.mpr htargets⟩ ref href
    exact (Route.target_eq_ok_iff.mp htarget).1
  · rintro ⟨hclusters, ⟨matcher, hmatcher⟩, hdeclared, hweight⟩
    have htarget : ∀ ref ∈ declared.clusters, ∃ target,
        Route.target spec place ref = .ok target := fun ref href =>
      ⟨_, Route.target_eq_ok_iff.mpr ⟨hdeclared ref href, rfl⟩⟩
    obtain ⟨targets, htargets⟩ := exists_mapM_iff.mpr htarget
    have htargets := mapM_eq_ok_iff.mp htargets
    let route : Route := {
      matcher, targets
      maxStreamMillis := declared.maxStreamMillis
      grpcTimeoutMaxMillis := declared.grpcTimeoutMaxMillis }
    have htotal : route.totalWeight = _ := Route.totalWeight_eq htargets
    exact ⟨route, hclusters, hmatcher, htargets, rfl, rfl, htotal.trans_le hweight⟩

/-- The routes of a spec are checked just when all are acceptable, wherever they stand. -/
theorem RouteTable.exists_compile_iff :
    (∃ table, RouteTable.compile spec = .ok table) ↔
      ∀ route ∈ spec.routes, route.Acceptable spec := by
  have hroutes : (∃ table, RouteTable.compile spec = .ok table) ↔
      ∃ routes, spec.routes.zipIdx.mapM (fun item => Route.compile spec item.2 item.1) =
        .ok routes := by
    simp only [RouteTable.compile_eq_ok_iff, mapM_eq_ok_iff]
    constructor
    · rintro ⟨-, routes, hroutes, -⟩
      exact ⟨routes, hroutes⟩
    · rintro ⟨routes, hroutes⟩
      exact ⟨_, routes, hroutes, rfl⟩
  rw [hroutes, exists_mapM_iff]
  simp only [Route.exists_compile_iff]
  -- the place of a route counts in faults only
  conv_rhs => rw [← List.zipIdx_map_fst 0 spec.routes, List.forall_mem_map]

/-! ### Clusters -/

theorem PortRef.foundIn_iff {ref : PortRef} {subset : Subset} :
    ref.FoundIn subset ↔ ∃ port, subset.port? ref = some port := by
  have hselects : ref.FoundIn subset ↔ ∃ port ∈ subset.ports, ref.selects port := by
    cases ref <;> simp [FoundIn, selects]
  rw [hselects, ← List.find?_isSome, Option.isSome_iff_exists]
  simp [Subset.port?]

theorem Subset.exists_endpoints_iff {service : QualifiedName} {ref : PortRef} {subset : Subset} :
    (∃ endpoints, subset.endpoints service ref = .ok endpoints) ↔ ref.FoundIn subset := by
  rw [PortRef.foundIn_iff, Subset.endpoints]
  cases subset.port? ref <;> simp

theorem Locality.exists_resolve_iff {locality : Locality} :
    (∃ resolved, locality.resolve index space = .ok resolved) ↔
      locality.Acceptable index space := by
  rw [Locality.resolve, Locality.Acceptable]
  cases locality.service with
  | none => simp
  | some ref =>
    simp only [ServiceRef.key, Option.some.injEq, exists_eq_left']
    cases index.find? ⟨ref.space.getD space, ref.name⟩ with
    | none => simp
    | some membership =>
      let endpoints := Subset.endpoints ⟨ref.space.getD space, ref.name⟩ ref.port
      have hsubsets : (∃ lists, membership.subsets.mapM endpoints = .ok lists) ↔
          ∀ subset ∈ membership.subsets, ref.port.FoundIn subset := by
        simp only [exists_mapM_iff, endpoints, Subset.exists_endpoints_iff]
      simp only [Option.some.injEq, exists_eq_left', ← hsubsets, endpoints]
      cases membership.subsets.mapM (Subset.endpoints ⟨ref.space.getD space, ref.name⟩ ref.port) <;>
        simp

/-- A cluster has endpoints just when it is acceptable. -/
theorem ClusterSpec.exists_resolve_iff {cluster : ClusterSpec} :
    (∃ resolved, cluster.resolve index space = .ok resolved) ↔ cluster.Acceptable index space := by
  have hlocality : ∀ locality, (∃ resolved,
      cluster.resolveLocality index space locality = .ok resolved) ↔
        locality.Acceptable index space := by
    intro locality
    rw [← Locality.exists_resolve_iff, ClusterSpec.resolveLocality]
    cases locality.resolve index space <;> simp
  rw [ClusterSpec.resolve]
  split_ifs with hempty hgaps
  · exact iff_of_false nofun fun h => h.localities_ne_nil (List.isEmpty_iff.mp hempty)
  · refine iff_of_false nofun fun h => ?_
    simp [ClusterSpec.contiguous_iff.mpr h.priorities] at hgaps
  · rw [exists_mapM_iff]
    simp only [hlocality]
    have hcontiguous : cluster.contiguous := by simpa using hgaps
    exact ⟨fun h => ⟨fun hnil => hempty (hnil ▸ rfl), ClusterSpec.contiguous_iff.mp hcontiguous, h⟩,
      fun h => h.localities⟩

theorem LoadAssignment.exists_ofCluster_iff {name : String} {cluster : ClusterSpec} :
    (∃ assignment, LoadAssignment.ofCluster index space name cluster = .ok assignment) ↔
      cluster.Acceptable index space := by
  rw [← ClusterSpec.exists_resolve_iff, LoadAssignment.ofCluster]
  cases cluster.resolve index space <;> simp

/-! ### Whole specs -/

theorem Listener.exists_ofSpec_iff {routeConfig : String} :
    (∃ listener, Listener.ofSpec spec routeConfig = .ok listener) ↔
      Text.trim spec.listener ≠ "" := by
  rw [Listener.ofSpec]
  split_ifs with hlistener <;> simp [hlistener]

/-- The stages that come before the membership counts are passed whatever the membership is. -/
theorem RoutingSpec.exists_prepare_iff :
    (∃ prepared, spec.prepare = .ok prepared) ↔
      (spec.clusters.map (·.name)).Nodup ∧ (∀ route ∈ spec.routes, route.Acceptable spec) ∧
        Text.trim spec.listener ≠ "" := by
  simp only [Prod.exists, RoutingSpec.prepare_eq_ok_iff, ← RouteTable.exists_compile_iff]
  constructor
  · rintro ⟨table, listener, hnodup, htable, hlistener⟩
    exact ⟨hnodup, ⟨table, htable⟩, Listener.exists_ofSpec_iff.mp ⟨listener, hlistener⟩⟩
  · rintro ⟨hnodup, ⟨table, htable⟩, hblank⟩
    obtain ⟨listener, hlistener⟩ : ∃ listener,
        Listener.ofSpec spec table.render.name = .ok listener :=
      Listener.exists_ofSpec_iff.mpr hblank
    exact ⟨table, listener, hnodup, htable, hlistener⟩

/-- A spec has a bundle just when it is acceptable. -/
theorem Bundle.exists_synthesize_iff :
    (∃ bundle, Bundle.synthesize spec index = .ok bundle) ↔ spec.Acceptable index := by
  have hassignments : (∃ assignments, spec.clusters.mapM (fun cluster =>
      LoadAssignment.ofCluster index spec.space (ResourceName.cluster spec.key cluster.name)
        cluster) = .ok assignments) ↔
      ∀ cluster ∈ spec.clusters, cluster.Acceptable index spec.space :=
    exists_mapM_iff.trans (forall₂_congr fun _ _ => LoadAssignment.exists_ofCluster_iff)
  simp only [Bundle.synthesize_eq_ok_iff, ← mapM_eq_ok_iff]
  constructor
  · rintro ⟨-, table, listener, assignments, hprepare, hclusters, -⟩
    obtain ⟨hdistinct, hroutes, hlistener⟩ := RoutingSpec.exists_prepare_iff.mp ⟨_, hprepare⟩
    exact ⟨hdistinct, hroutes, hlistener, hassignments.mp ⟨assignments, hclusters⟩⟩
  · rintro ⟨hdistinct, hroutes, hlistener, hclusters⟩
    obtain ⟨⟨table, listener⟩, hprepare⟩ :=
      RoutingSpec.exists_prepare_iff.mpr ⟨hdistinct, hroutes, hlistener⟩
    obtain ⟨assignments, hassignments⟩ := hassignments.mpr hclusters
    exact ⟨_, table, listener, assignments, hprepare, hassignments, rfl⟩

/-! ### Faults of specs -/

/-- A fault of a declaration or of a reference, which concerns one spec only. -/
def Fault.OfSpec (fault : Fault) : Prop :=
  fault.kind = .config ∨ fault.kind = .resolution

theorem Fault.kind_inCluster (cluster : String) (fault : Fault) :
    (fault.inCluster cluster).kind = fault.kind := by
  cases fault <;> rfl

/-- A locality without a service is a fault of configuration. Any other fault of a locality is one
of resolution. -/
theorem Locality.resolve_eq_error_cases {locality : Locality} {fault : Fault}
    (h : locality.resolve index space = .error fault) :
    (locality.service = none ∧ fault.kind = .config) ∨
      (locality.service ≠ none ∧ fault.kind = .resolution) := by
  rw [Locality.resolve] at h
  split at h
  · next hservice =>
    obtain rfl := Except.error.inj h
    exact .inl ⟨hservice, rfl⟩
  · next hservice =>
    refine .inr ⟨fun hnone => Option.some_ne_none _ (hservice.symm.trans hnone), ?_⟩
    dsimp only at h
    split at h
    · obtain rfl := Except.error.inj h
      rfl
    · split at h
      · obtain rfl := Except.error.inj h
        rfl
      · cases h

/-- A cluster has no endpoints because of its own declaration, or because of one of its
localities. -/
theorem ClusterSpec.resolve_eq_error_cases {cluster : ClusterSpec} {fault : Fault}
    (h : cluster.resolve index space = .error fault) :
    ((cluster.localities = [] ∨ ¬ cluster.contiguous) ∧ fault.kind = .config) ∨
      ∃ locality ∈ cluster.localities, ∃ cause, locality.resolve index space = .error cause ∧
        fault = cause.inCluster cluster.name := by
  rw [ClusterSpec.resolve] at h
  split_ifs at h with hempty hgaps
  · obtain rfl := Except.error.inj h
    exact .inl ⟨.inl (List.isEmpty_iff.mp hempty), rfl⟩
  · obtain rfl := Except.error.inj h
    exact .inl ⟨.inr (by simpa using hgaps), rfl⟩
  · obtain ⟨locality, hmem, hlocality⟩ := exists_of_mapM_eq_error h
    rw [ClusterSpec.resolveLocality] at hlocality
    split at hlocality
    · cases hlocality
    · next cause hcause =>
      exact .inr ⟨locality, hmem, cause, hcause, (Except.error.inj hlocality).symm⟩

theorem ClusterSpec.ofSpec_of_resolve {cluster : ClusterSpec} {fault : Fault}
    (h : cluster.resolve index space = .error fault) : fault.OfSpec := by
  rcases ClusterSpec.resolve_eq_error_cases h with ⟨-, hkind⟩ | ⟨locality, -, cause, hcause, rfl⟩
  · exact .inl hkind
  · rw [Fault.OfSpec, Fault.kind_inCluster]
    exact (Locality.resolve_eq_error_cases hcause).imp And.right And.right

/-- Synthesis fails in the stages that come before the membership counts, or at a cluster that has
no endpoints. -/
theorem Bundle.synthesize_eq_error_cases {fault : Fault}
    (h : Bundle.synthesize spec index = .error fault) :
    (∃ cause, spec.prepare = .error cause ∧ fault = .config cause) ∨
      ∃ cluster ∈ spec.clusters, cluster.resolve index spec.space = .error fault := by
  rw [Bundle.synthesize] at h
  split at h
  · next cause hcause => exact .inl ⟨cause, hcause, (Except.error.inj h).symm⟩
  · dsimp only at h
    split at h
    · next cause hcause =>
      obtain rfl := Except.error.inj h
      obtain ⟨cluster, hmem, hcluster⟩ := exists_of_mapM_eq_error hcause
      rw [LoadAssignment.ofCluster] at hcluster
      split at hcluster
      · cases hcluster
      · next hresolve =>
        obtain rfl := Except.error.inj hcluster
        exact .inr ⟨cluster, hmem, hresolve⟩
    · cases h

/-- Synthesis fails with faults of the spec only. -/
theorem Bundle.ofSpec_of_synthesize {fault : Fault}
    (h : Bundle.synthesize spec index = .error fault) : fault.OfSpec := by
  rcases Bundle.synthesize_eq_error_cases h with ⟨cause, -, rfl⟩ | ⟨cluster, -, hresolve⟩
  · exact .inl rfl
  · exact ClusterSpec.ofSpec_of_resolve hresolve

/-- Synthesis gives a bundle just when the spec is acceptable under the membership, and a fault of
configuration or of resolution just when it is not. -/
theorem Bundle.synthesize_accepts_iff (spec : RoutingSpec) (index : MembershipIndex) :
    ((∃ bundle, Bundle.synthesize spec index = .ok bundle) ↔ spec.Acceptable index) ∧
      ((∃ fault, Bundle.synthesize spec index = .error fault ∧
        (fault.kind = .config ∨ fault.kind = .resolution)) ↔ ¬ spec.Acceptable index) := by
  refine ⟨exists_synthesize_iff, ?_⟩
  rw [← exists_synthesize_iff]
  cases h : Bundle.synthesize spec index with
  | ok bundle => simp
  | error fault => simpa [Fault.OfSpec] using ofSpec_of_synthesize h

end TrafficPlane
