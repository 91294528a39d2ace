import TrafficPlane.Proofs.Bundle
import TrafficPlane.Proofs.KeyMap

/-!
# Snapshots that pass their check

A snapshot passes its check if the names of each type are distinct and every reference leads to a
name of the snapshot. Bundles that refer to themselves only make such a snapshot, as soon as no two
of them have the same listener: all their other names are generated from names that differ.

## Main definitions

* `Bundle.KeepApart`: self-contained bundles, no two of which share a key or a listener
* `KeyMap.Orderly`: self-contained bundles, each under its own name and with its own listener

## Main results

* `Snapshot.checkBy_eq_ok_iff`, `Snapshot.checkBundle_eq_ok_iff`: what the check asks for, however
  connection managers are read
* `Snapshot.checkBy_of_keepApart`: a snapshot of bundles that keep apart passes, by any decoder that
  reads managers back
* `Bundle.references_resolve`: synthesized bundles refer to their own resources, so they pass
-/

namespace TrafficPlane

variable {snapshot : Snapshot} {bundle : Bundle} {type : ResourceType}
  {decode : Wire.Bytes → Option ConnectionManager}

/-! ### What the check asks for -/

namespace Snapshot

theorem checkNames_eq_ok_iff :
    snapshot.checkNames type = .ok () ↔ (snapshot.resourceNames type).Nodup := by
  have hnodup : firstRepeated? [] (snapshot.resourceNames type) = none ↔
      (snapshot.resourceNames type).Nodup := by
    simp [firstRepeated?_eq_none_iff]
  rw [checkNames, ← hnodup]
  cases firstRepeated? [] (snapshot.resourceNames type) <;> simp

theorem checkReference_eq_ok_iff {source target : String} :
    snapshot.checkReference type source target = .ok () ↔
      target ∈ snapshot.resourceNames type := by
  simp [checkReference]

theorem checkListener_eq_ok_iff : snapshot.checkListener decode bundle = .ok () ↔
    ∃ name, bundle.listener.routeConfigNameBy decode = .ok (some name) ∧
      name ∈ snapshot.resourceNames .routeConfiguration := by
  rw [checkListener]
  rcases bundle.listener.routeConfigNameBy decode with cause | _ | name
  · simp
  · simp
  · simp [checkReference_eq_ok_iff]

/-- A bundle passes if its listener asks for a route configuration of the snapshot, its routes lead
to clusters of the snapshot, and its clusters to load assignments of the snapshot. -/
theorem checkBundle_eq_ok_iff : snapshot.checkBundle decode bundle = .ok () ↔
    (∃ name, bundle.listener.routeConfigNameBy decode = .ok (some name) ∧
      name ∈ snapshot.resourceNames .routeConfiguration) ∧
    (∀ name ∈ bundle.routeConfiguration.referencedClusters,
      name ∈ snapshot.resourceNames .cluster) ∧
    ∀ cluster ∈ bundle.clusters,
      cluster.assignmentName ∈ snapshot.resourceNames .loadAssignment := by
  simp only [checkBundle, check_bind_eq_ok_iff, checkEach_eq_ok_iff, checkReference_eq_ok_iff,
    checkListener_eq_ok_iff]

/-- A snapshot passes if the names of each type are distinct and every bundle passes. -/
theorem checkBy_eq_ok_iff : snapshot.checkBy decode = .ok () ↔
    (∀ type, (snapshot.resourceNames type).Nodup) ∧
      ∀ bundle ∈ snapshot.bundles.values, snapshot.checkBundle decode bundle = .ok () := by
  have hall : ∀ type : ResourceType, type ∈ ResourceType.all := by
    intro type
    cases type <;> decide
  simp only [checkBy, check_bind_eq_ok_iff, checkEach_eq_ok_iff, checkNames_eq_ok_iff]
  constructor
  · rintro ⟨hnames, hbundles⟩
    exact ⟨fun type => hnames type (hall type), hbundles⟩
  · rintro ⟨hnames, hbundles⟩
    exact ⟨fun type _ => hnames type, hbundles⟩

end Snapshot

/-! ### The names of self-contained bundles -/

namespace Bundle.SelfContained

theorem nodup_resourceNames (h : bundle.SelfContained) (type : ResourceType) :
    (bundle.resourceNames type).Nodup := by
  obtain ⟨locals, hnodup, hclusters, hassignments⟩ := h.names_clusters
  have hnames : (locals.map (ResourceName.cluster bundle.key)).Nodup :=
    hnodup.map fun _ _ heq => (ResourceName.cluster_inj.mp heq).2
  cases type with
  | listener => exact List.nodup_singleton _
  | routeConfiguration => exact List.nodup_singleton _
  | cluster => simpa [resourceNames, hclusters, Cluster.ofName, Function.comp_def] using hnames
  | loadAssignment => simpa [resourceNames, hassignments] using hnames

/-- Apart from its listener's, the names of a bundle tell the bundle's key. -/
theorem key_eq_of_name (h : bundle.SelfContained) {other : Bundle} (hother : other.SelfContained)
    (htype : type ≠ .listener) {name : String} (hname : name ∈ bundle.resourceNames type)
    (hname' : name ∈ other.resourceNames type) : bundle.key = other.key := by
  obtain ⟨locals, -, hclusters, hassignments⟩ := h.names_clusters
  obtain ⟨locals', -, hclusters', hassignments'⟩ := hother.names_clusters
  cases type with
  | listener => exact absurd rfl htype
  | routeConfiguration =>
    simp only [resourceNames, List.mem_singleton] at hname hname'
    rw [hname, h.name_routeConfiguration, hother.name_routeConfiguration] at hname'
    exact ResourceName.routeConfiguration_inj.mp hname'
  | cluster =>
    simp only [resourceNames, hclusters, hclusters', List.map_map, List.mem_map,
      Function.comp_apply, Cluster.ofName] at hname hname'
    obtain ⟨part, -, rfl⟩ := hname
    obtain ⟨part', -, heq⟩ := hname'
    exact (ResourceName.cluster_inj.mp heq).1.symm
  | loadAssignment =>
    simp only [resourceNames, hassignments, hassignments', List.mem_map] at hname hname'
    obtain ⟨part, -, rfl⟩ := hname
    obtain ⟨part', -, heq⟩ := hname'
    exact (ResourceName.cluster_inj.mp heq).1.symm

/-- Each cluster of a self-contained bundle has a load assignment there. -/
theorem assignmentName_mem (h : bundle.SelfContained) {cluster : Cluster}
    (hcluster : cluster ∈ bundle.clusters) :
    cluster.assignmentName ∈ bundle.resourceNames .loadAssignment := by
  obtain ⟨locals, -, hclusters, hassignments⟩ := h.names_clusters
  rw [hclusters] at hcluster
  obtain ⟨part, hpart, rfl⟩ := List.mem_map.mp hcluster
  have hname : (Cluster.ofName (ResourceName.cluster bundle.key part)).assignmentName =
      ResourceName.cluster bundle.key part := by
    simp only [Cluster.assignmentName, Cluster.ofName, Option.map_some, Option.filter_some]
    split_ifs <;> rfl
  -- the cluster is fetched by its own name, which is that of the assignment in its place
  rw [hname, resourceNames, hassignments]
  exact List.mem_map_of_mem hpart

end Bundle.SelfContained

/-! ### Bundles that keep apart -/

/-- Self-contained bundles, no two of which have the same key or the same listener. -/
structure Bundle.KeepApart (bundles : List Bundle) : Prop where
  selfContained : ∀ bundle ∈ bundles, bundle.SelfContained
  nodup_keys : (bundles.map (·.key)).Nodup
  nodup_listeners : (bundles.map (·.listener.name)).Nodup

namespace Snapshot

theorem nodup_resourceNames (h : Bundle.KeepApart snapshot.bundles.values) (type : ResourceType) :
    (snapshot.resourceNames type).Nodup := by
  refine List.nodup_flatMap.mpr
    ⟨fun bundle hbundle => (h.selfContained bundle hbundle).nodup_resourceNames type, ?_⟩
  -- listeners have names that specs choose, all other resources names that tell the key
  by_cases htype : type = .listener
  · subst htype
    refine (List.pairwise_map.mp h.nodup_listeners).imp fun {a b} hne => ?_
    exact List.singleton_disjoint.mpr fun hmem => hne (List.mem_singleton.mp hmem)
  · refine (List.pairwise_map.mp h.nodup_keys).imp_of_mem fun {a b} ha hb hne name hname hname' => ?_
    exact hne ((h.selfContained a ha).key_eq_of_name (h.selfContained b hb) htype hname hname')

/-- The references of a self-contained bundle lead to the bundle itself, hence into the snapshot. -/
theorem checkBundle_eq_ok (hbundle : bundle ∈ snapshot.bundles.values)
    (hself : bundle.SelfContained) (hdecode : ConnectionManager.ReadsBack decode) :
    snapshot.checkBundle decode bundle = .ok () := by
  have hown : ∀ type, ∀ name ∈ bundle.resourceNames type, name ∈ snapshot.resourceNames type :=
    fun type name hname => List.mem_flatMap.mpr ⟨bundle, hbundle, hname⟩
  refine checkBundle_eq_ok_iff.mpr ⟨⟨_, hself.listener_asks hdecode, ?_⟩, ?_, ?_⟩
  · exact hown .routeConfiguration _ (List.mem_singleton.mpr rfl)
  · intro name hname
    exact hown .cluster _ (hself.routes_lead name hname)
  · intro cluster hcluster
    exact hown .loadAssignment _ (hself.assignmentName_mem hcluster)

/-- A snapshot of bundles that keep apart passes its check. -/
theorem checkBy_of_keepApart (h : Bundle.KeepApart snapshot.bundles.values)
    (hdecode : ConnectionManager.ReadsBack decode) : snapshot.checkBy decode = .ok () :=
  checkBy_eq_ok_iff.mpr ⟨nodup_resourceNames h, fun bundle hbundle =>
    checkBundle_eq_ok hbundle (h.selfContained bundle hbundle) hdecode⟩

end Snapshot

/-! ### Orderly bundles -/

/-- Self-contained bundles, each under its own name, no two of which have the same listener. -/
structure KeyMap.Orderly (bundles : KeyMap Bundle) : Prop where
  key_eq : ∀ {key bundle}, bundles.find? key = some bundle → bundle.key = key
  selfContained : ∀ {key bundle}, bundles.find? key = some bundle → bundle.SelfContained
  listener_inj : ∀ {key bundle key' bundle'}, bundles.find? key = some bundle →
    bundles.find? key' = some bundle' → bundle.listener.name = bundle'.listener.name → key = key'

theorem KeyMap.Orderly.keepApart {bundles : KeyMap Bundle} (h : bundles.Orderly) :
    Bundle.KeepApart bundles.values where
  selfContained := fun _ hbundle =>
    have ⟨_, hfind⟩ := KeyMap.mem_values_iff.mp hbundle
    h.selfContained hfind
  nodup_keys := KeyMap.nodup_map_values fun hfind hfind' heq =>
    (h.key_eq hfind).symm.trans (heq.trans (h.key_eq hfind'))
  nodup_listeners := KeyMap.nodup_map_values h.listener_inj

/-- A snapshot of orderly bundles passes its check, under any version. -/
theorem Snapshot.check_of_orderly {bundles : KeyMap Bundle} (h : bundles.Orderly) (version : Nat) :
    Snapshot.check { version, bundles } = .ok () :=
  Snapshot.checkBy_of_keepApart h.keepApart ConnectionManager.readsBack_decode?

/-! ### Synthesized bundles -/

/-- Whatever the spec and the membership, the clusters and the load assignments of a bundle have the
generated names of the declared clusters, routes and clusters refer to those, and the listener asks
for the bundle's own route configuration. So bundles with different keys and different listeners
make a snapshot that passes its check. -/
theorem Bundle.references_resolve :
    (∀ spec index bundle, Bundle.synthesize spec index = .ok bundle →
      let names := spec.clusters.map fun cluster => ResourceName.cluster spec.key cluster.name
      bundle.clusters.map (·.name) = names ∧
      bundle.loadAssignments.map (·.clusterName) = names ∧ names.Nodup ∧
      (∀ host ∈ bundle.routeConfiguration.virtualHosts, ∀ route ∈ host.routes,
        ∃ clusters total limits,
          route.action = some (.forward ⟨some (.weighted clusters total), limits⟩) ∧
          ∀ entry ∈ clusters, entry.name ∈ names) ∧
      (∀ cluster ∈ bundle.clusters, ∃ discovery, cluster.discovery = some discovery ∧
        discovery.serviceName ∈ bundle.loadAssignments.map (·.clusterName)) ∧
      bundle.listener.routeConfigName = .ok (some bundle.routeConfiguration.name)) ∧
    ∀ snapshot : Snapshot,
      (∀ bundle ∈ snapshot.bundles.values, ∃ spec index,
        Bundle.synthesize spec index = .ok bundle) →
      (snapshot.bundles.values.map (·.key)).Nodup →
      (snapshot.bundles.values.map (·.listener.name)).Nodup → snapshot.check = .ok () := by
  constructor
  · intro spec index bundle h names
    obtain ⟨-, hclusters, hassignments⟩ := names_of_synthesize h
    have hself := selfContained_of_synthesize h
    have hnames : bundle.clusters.map (·.name) = names := by
      simp [hclusters, names, Cluster.ofName]
    have hassigned : bundle.loadAssignments.map (·.clusterName) = names := by
      simp [hassignments, names]
    refine ⟨hnames, hassigned, hnames ▸ hself.nodup_resourceNames .cluster, ?_, ?_,
      hself.listener_asks ConnectionManager.readsBack_decode?⟩
    · intro host hhost route hroute
      obtain ⟨clusters, total, limits, haction, hreferenced⟩ :=
        weighted_of_synthesize h hhost hroute
      refine ⟨clusters, total, limits, haction, fun entry hentry => hnames ▸ hself.routes_lead _ ?_⟩
      refine List.mem_flatMap.mpr ⟨host, hhost, List.mem_flatMap.mpr ⟨route, hroute, ?_⟩⟩
      exact hreferenced ▸ List.mem_map_of_mem hentry
    · intro cluster hcluster
      rw [hclusters] at hcluster
      obtain ⟨name, hname, rfl⟩ := List.mem_map.mp hcluster
      -- the cluster is fetched by its own name, which is that of the assignment in its place
      exact ⟨_, rfl, hassignments ▸ List.mem_map_of_mem hname⟩
  · intro snapshot hsynthesized hkeys hlisteners
    refine Snapshot.checkBy_of_keepApart ⟨fun bundle hbundle => ?_, hkeys, hlisteners⟩
      ConnectionManager.readsBack_decode?
    obtain ⟨spec, index, h⟩ := hsynthesized bundle hbundle
    exact selfContained_of_synthesize h

/-- Two specs of one name in different namespaces, one of them with a cluster, make a snapshot. -/
theorem Bundle.references_resolve_of_two_namespaces :
    let spec : RoutingSpec := {
      name := "a", listener := "l", routes := [.toCluster "c"]
      clusters := [{
        name := "c", localities := [{ service := some { name := "s", port := .numbered 80 } }] }] }
    let other : RoutingSpec := { name := "a", space := "other", listener := "m" }
    let index := MembershipIndex.ofList [{ name := "s" }]
    ∃ bundle otherBundle, Bundle.synthesize spec index = .ok bundle ∧
      Bundle.synthesize other index = .ok otherBundle ∧
      bundle.loadAssignments.map (·.clusterName) = ["routeforge.a.default.c"] ∧
      Snapshot.check {
        version := 1
        bundles := KeyMap.ofList Bundle.key [bundle, otherBundle] } = .ok () := by
  intro spec other index
  obtain ⟨bundle, h⟩ : ∃ bundle, synthesize spec index = .ok bundle :=
    exists_of_isSome (by decide +kernel)
  obtain ⟨otherBundle, h'⟩ : ∃ bundle, synthesize other index = .ok bundle :=
    exists_of_isSome (by decide +kernel)
  have hkeys : bundle.key = ⟨"default", "a"⟩ ∧ otherBundle.key = ⟨"other", "a"⟩ :=
    ⟨key_of_synthesize h, key_of_synthesize h'⟩
  have hlisteners : bundle.listener.name = "l" ∧ otherBundle.listener.name = "m" :=
    ⟨listener_name_of_synthesize h, listener_name_of_synthesize h'⟩
  have hlt : ¬ (⟨"other", "a"⟩ : QualifiedName) < ⟨"default", "a"⟩ := by decide
  have hne : (⟨"other", "a"⟩ : QualifiedName) ≠ ⟨"default", "a"⟩ := by decide
  have hput : KeyMap.put otherBundle.key otherBundle [(bundle.key, bundle)] =
      [(bundle.key, bundle), (otherBundle.key, otherBundle)] := by
    rw [hkeys.1, hkeys.2, KeyMap.put, if_neg hlt, if_neg hne]
    rfl
  have hvalues : (KeyMap.ofList Bundle.key [bundle, otherBundle]).values = [bundle, otherBundle] :=
    congrArg (List.map Prod.snd) hput
  have hnames := (references_resolve.1 spec index bundle h).2.1
  refine ⟨bundle, otherBundle, h, h', hnames.trans (by decide +kernel), ?_⟩
  refine references_resolve.2 _ ?_ ?_ ?_ <;> dsimp only <;> rw [hvalues]
  · rintro made (_ | ⟨_, _ | ⟨_, hnone⟩⟩)
    · exact ⟨spec, index, h⟩
    · exact ⟨other, index, h'⟩
    · cases hnone
  · simp [hkeys]
  · simp [hlisteners]

end TrafficPlane
