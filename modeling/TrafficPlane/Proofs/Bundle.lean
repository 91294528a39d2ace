import TrafficPlane.Proofs.Listener
import TrafficPlane.Proofs.ResourceName
import TrafficPlane.Proofs.Stages

/-!
# Bundles that refer to themselves only

The route table, the listener, the clusters and the load assignments of a bundle are made apart
from each other, each with its own generated names. Whatever the spec and the membership, these
names fit together.

## Main definitions

* `Bundle.SelfContained`: the references of a bundle lead to its own resources, under names of its
  own

## Main results

* `Bundle.synthesize_eq_ok_iff`: the stages of synthesis
* `Bundle.names_of_synthesize`: the clusters of a bundle are those that its spec declares
* `Bundle.selfContained_of_synthesize`: synthesized bundles are self-contained
-/

namespace TrafficPlane

variable {spec : RoutingSpec} {index : MembershipIndex} {bundle : Bundle} {table : RouteTable}

/-! ### The clusters that routes refer to -/

/-- Rendering keeps the clusters that routes send requests to. -/
theorem RouteTable.referencedClusters_render (table : RouteTable) :
    table.render.referencedClusters = table.referencedClusters := by
  simp only [render, RouteConfiguration.referencedClusters, referencedClusters,
    List.flatMap_cons, List.flatMap_nil, List.append_nil, List.flatMap_map]
  congr 1
  funext route
  simp [Route.render, RouteEntry.referencedClusters]

/-- A reference to a cluster that the spec declares has a target, with the generated name of the
cluster. -/
theorem Route.target_eq_ok_iff {place : Nat} {ref : ClusterRef} {target : Target} :
    Route.target spec place ref = .ok target ↔
      (∃ cluster ∈ spec.clusters, cluster.name = ref.name) ∧
        target = ⟨ref.name, ResourceName.cluster spec.key ref.name, ref.weight⟩ := by
  have hdeclared : spec.clusters.any (·.name == ref.name) ↔
      ∃ cluster ∈ spec.clusters, cluster.name = ref.name := by
    simp [List.any_eq_true]
  rw [Route.target, ← hdeclared]
  split_ifs with h
  · simp [h, eq_comm]
  · simp [h]

/-- A route is checked when it has clusters, its criteria and its references are good, and its
weights do not add up to too much. -/
theorem Route.compile_eq_ok_iff {place : Nat} {declared : RouteSpec} {route : Route} :
    Route.compile spec place declared = .ok route ↔
      declared.clusters ≠ [] ∧ RequestMatcher.compile declared = .ok route.matcher ∧
        List.Forall₂ (fun ref target => Route.target spec place ref = .ok target)
          declared.clusters route.targets ∧
        route.maxStreamMillis = declared.maxStreamMillis ∧
        route.grpcTimeoutMaxMillis = declared.grpcTimeoutMaxMillis ∧
        route.totalWeight ≤ maxTotalWeight := by
  rw [Route.compile]
  split_ifs with hempty
  · simp [List.isEmpty_iff.mp hempty]
  have hclusters : declared.clusters ≠ [] := fun h => hempty (h ▸ rfl)
  simp only [bind_eq_ok_iff, mapM_eq_ok_iff]
  constructor
  · rintro ⟨matcher, hmatcher, targets, htargets, h⟩
    split_ifs at h with hweight
    obtain rfl := Except.ok.inj h
    exact ⟨hclusters, hmatcher, htargets, rfl, rfl, not_lt.mp hweight⟩
  · rintro ⟨-, hmatcher, htargets, hstream, hgrpc, hweight⟩
    obtain ⟨matcher, targets, maxStream, grpcTimeout⟩ := route
    obtain rfl : maxStream = _ := hstream
    obtain rfl : grpcTimeout = _ := hgrpc
    exact ⟨matcher, hmatcher, targets, htargets, if_neg (not_lt.mpr hweight)⟩

/-- A checked table has the routes of its spec, under a name of its own. -/
theorem RouteTable.compile_eq_ok_iff : RouteTable.compile spec = .ok table ↔
    ∃ routes, List.Forall₂ (fun declared route =>
        Route.compile spec declared.2 declared.1 = .ok route) spec.routes.zipIdx routes ∧
      table = {
        name := ResourceName.routeConfiguration spec.key
        virtualHost := ResourceName.virtualHost spec.key
        domains := [spec.listener]
        routes } := by
  rw [RouteTable.compile, bind_eq_ok_iff]
  simp only [mapM_eq_ok_iff, pure, Except.pure, Except.ok.injEq]
  simp only [eq_comm (a := table)]

/-- The routes of a checked table send requests to declared clusters, by their generated names. -/
theorem RouteTable.mem_referencedClusters (h : RouteTable.compile spec = .ok table) {name : String}
    (hname : name ∈ table.referencedClusters) :
    ∃ cluster ∈ spec.clusters, name = ResourceName.cluster spec.key cluster.name := by
  obtain ⟨routes, hroutes, rfl⟩ := RouteTable.compile_eq_ok_iff.mp h
  obtain ⟨route, hroute, hname⟩ := List.mem_flatMap.mp hname
  obtain ⟨target, htarget, rfl⟩ := List.mem_map.mp hname
  obtain ⟨declared, -, hcompile⟩ := exists_of_mem_results hroutes hroute
  obtain ⟨-, -, htargets, -⟩ := Route.compile_eq_ok_iff.mp hcompile
  obtain ⟨ref, -, href⟩ := exists_of_mem_results htargets htarget
  obtain ⟨⟨cluster, hcluster, hlocal⟩, rfl⟩ := Route.target_eq_ok_iff.mp href
  exact ⟨cluster, hcluster, hlocal ▸ rfl⟩

/-! ### The stages of synthesis -/

/-- The table and the listener that come before the membership counts. -/
theorem RoutingSpec.prepare_eq_ok_iff {listener : Listener} :
    spec.prepare = .ok (table, listener) ↔
      (spec.clusters.map (·.name)).Nodup ∧ RouteTable.compile spec = .ok table ∧
        Listener.ofSpec spec table.render.name = .ok listener := by
  have hnodup : firstRepeated? [] (spec.clusters.map (·.name)) = none ↔
      (spec.clusters.map (·.name)).Nodup := by
    simp [firstRepeated?_eq_none_iff]
  rw [RoutingSpec.prepare, ← hnodup]
  cases firstRepeated? [] (spec.clusters.map (·.name)) with
  | some name => simp
  | none =>
    simp only [bind_eq_ok_iff, pure, Except.pure, Except.ok.injEq, Prod.mk.injEq, true_and]
    constructor
    · rintro ⟨table', htable, listener', hlistener, rfl, rfl⟩
      exact ⟨htable, hlistener⟩
    · rintro ⟨htable, hlistener⟩
      exact ⟨table, htable, listener, hlistener, rfl, rfl⟩

/-- A bundle is synthesized when its spec passes the checks of its own and each of its clusters has
endpoints. -/
theorem Bundle.synthesize_eq_ok_iff : Bundle.synthesize spec index = .ok bundle ↔
    ∃ table listener assignments, spec.prepare = .ok (table, listener) ∧
      List.Forall₂ (fun cluster assignment => LoadAssignment.ofCluster index spec.space
        (ResourceName.cluster spec.key cluster.name) cluster = .ok assignment)
        spec.clusters assignments ∧
      bundle = {
        key := spec.key
        listener
        routeTable := table
        routeConfiguration := table.render
        clusters := spec.clusters.map fun cluster =>
          .ofName (ResourceName.cluster spec.key cluster.name)
        loadAssignments := assignments } := by
  rw [Bundle.synthesize]
  cases hprepare : spec.prepare with
  | error cause => simp
  | ok prepared =>
    obtain ⟨table, listener⟩ := prepared
    simp only [← mapM_eq_ok_iff]
    cases spec.clusters.mapM fun cluster => LoadAssignment.ofCluster index spec.space
        (ResourceName.cluster spec.key cluster.name) cluster with
    | error fault => simp
    | ok assignments => simp [eq_comm]

/-- A load assignment has the name that it was asked for under. -/
theorem LoadAssignment.clusterName_of_ofCluster {space name : String} {cluster : ClusterSpec}
    {assignment : LoadAssignment}
    (h : LoadAssignment.ofCluster index space name cluster = .ok assignment) :
    assignment.clusterName = name := by
  rw [LoadAssignment.ofCluster] at h
  split at h
  · obtain rfl := Except.ok.inj h
    rfl
  · cases h

theorem Listener.name_of_ofSpec {routeConfig : String} {listener : Listener}
    (h : Listener.ofSpec spec routeConfig = .ok listener) : listener.name = spec.listener := by
  rw [Listener.ofSpec] at h
  split_ifs at h
  obtain rfl := Except.ok.inj h
  rfl

/-- The listener of a spec asks for the route configuration that it was made for. -/
theorem Listener.routeConfigNameBy_of_ofSpec {decode : Wire.Bytes → Option ConnectionManager}
    (hdecode : ConnectionManager.ReadsBack decode) {routeConfig : String} {listener : Listener}
    (h : Listener.ofSpec spec routeConfig = .ok listener) :
    listener.routeConfigNameBy decode = .ok (some routeConfig) := by
  rw [Listener.ofSpec] at h
  split_ifs at h
  obtain rfl := Except.ok.inj h
  exact Listener.routeConfigNameBy_ofManager hdecode spec.listener
    { source := some .stream, routeConfigName := routeConfig } rfl

/-! ### Self-contained bundles -/

namespace Bundle

/-- The references of a bundle lead to its own resources, which have names that are generated from
the bundle's key. -/
structure SelfContained (bundle : Bundle) : Prop where
  name_routeConfiguration :
    bundle.routeConfiguration.name = ResourceName.routeConfiguration bundle.key
  /-- The clusters and the load assignments, in the order in which the spec declares them. -/
  names_clusters : ∃ locals : List String, locals.Nodup ∧
    bundle.clusters = locals.map (fun name => .ofName (ResourceName.cluster bundle.key name)) ∧
    bundle.loadAssignments.map (·.clusterName) = locals.map (ResourceName.cluster bundle.key)
  listener_asks : ∀ {decode}, ConnectionManager.ReadsBack decode →
    bundle.listener.routeConfigNameBy decode = .ok (some bundle.routeConfiguration.name)
  routes_lead : ∀ name ∈ bundle.routeConfiguration.referencedClusters,
    name ∈ bundle.clusters.map (·.name)

theorem key_of_synthesize (h : Bundle.synthesize spec index = .ok bundle) :
    bundle.key = spec.key := by
  obtain ⟨table, listener, assignments, -, -, rfl⟩ := synthesize_eq_ok_iff.mp h
  rfl

theorem listener_name_of_synthesize (h : Bundle.synthesize spec index = .ok bundle) :
    bundle.listener.name = spec.listener := by
  obtain ⟨table, listener, assignments, hprepare, -, rfl⟩ := synthesize_eq_ok_iff.mp h
  obtain ⟨-, -, hlistener⟩ := RoutingSpec.prepare_eq_ok_iff.mp hprepare
  exact Listener.name_of_ofSpec hlistener

/-- The clusters and the load assignments of a bundle are those that the spec declares, in the same
order, under generated names. -/
theorem names_of_synthesize (h : Bundle.synthesize spec index = .ok bundle) :
    (spec.clusters.map (·.name)).Nodup ∧
      bundle.clusters =
        (spec.clusters.map (·.name)).map (fun name => .ofName (ResourceName.cluster spec.key name)) ∧
      bundle.loadAssignments.map (·.clusterName) =
        (spec.clusters.map (·.name)).map (ResourceName.cluster spec.key) := by
  obtain ⟨table, listener, assignments, hprepare, hassignments, rfl⟩ := synthesize_eq_ok_iff.mp h
  obtain ⟨hnodup, -, -⟩ := RoutingSpec.prepare_eq_ok_iff.mp hprepare
  -- clusters and assignments were both named after the clusters of the spec, one by one
  have hnames := map_results_eq hassignments fun _ _ => LoadAssignment.clusterName_of_ofCluster
  exact ⟨hnodup, by simp, by rw [List.map_map]; exact hnames⟩

/-- Each route of a bundle spreads requests over weighted clusters, and refers to those only. -/
theorem weighted_of_synthesize (h : Bundle.synthesize spec index = .ok bundle) {host : VirtualHost}
    (hhost : host ∈ bundle.routeConfiguration.virtualHosts) {route : RouteEntry}
    (hroute : route ∈ host.routes) :
    ∃ clusters total limits,
      route.action = some (.forward ⟨some (.weighted clusters total), limits⟩) ∧
      route.referencedClusters = clusters.map (·.name) := by
  obtain ⟨table, listener, assignments, -, -, rfl⟩ := synthesize_eq_ok_iff.mp h
  obtain rfl := List.mem_singleton.mp hhost
  obtain ⟨checked, -, rfl⟩ := List.mem_map.mp hroute
  exact ⟨_, _, _, rfl, rfl⟩

/-- Synthesized bundles are self-contained, whatever the spec and the membership. -/
theorem selfContained_of_synthesize (h : Bundle.synthesize spec index = .ok bundle) :
    bundle.SelfContained := by
  obtain ⟨hnodup, hclusters, hassignments⟩ := names_of_synthesize h
  rw [← key_of_synthesize h] at hclusters hassignments
  obtain ⟨table, listener, assignments, hprepare, -, rfl⟩ := synthesize_eq_ok_iff.mp h
  obtain ⟨-, htable, hlistener⟩ := RoutingSpec.prepare_eq_ok_iff.mp hprepare
  constructor
  case name_routeConfiguration =>
    obtain ⟨routes, -, rfl⟩ := RouteTable.compile_eq_ok_iff.mp htable
    rfl
  case names_clusters => exact ⟨_, hnodup, hclusters, hassignments⟩
  case listener_asks =>
    intro decode hdecode
    exact Listener.routeConfigNameBy_of_ofSpec hdecode hlistener
  case routes_lead =>
    intro name hname
    rw [RouteTable.referencedClusters_render] at hname
    obtain ⟨cluster, hcluster, rfl⟩ := RouteTable.mem_referencedClusters htable hname
    simp only [List.map_map]
    exact List.mem_map_of_mem hcluster

end Bundle

end TrafficPlane
