import TrafficPlane.Proofs.Consistency

/-!
# Flaws of snapshots

A snapshot of any bundles at all, synthesized or not, is consistent if its resources can be told
apart by name and each of them finds what it refers to. The check of a snapshot decides just this,
and where it fails its fault names a flaw that the snapshot has.

Which bytes hold a connection manager, and which one, is for the decoder of messages to say. Nothing
is asked of it here, so the verdict is right for any decoder at all.

## Main definitions

* `Listener.AsksFor`, `RouteConfiguration.SendsTo`, `Cluster.FetchesBy`: the references of resources
* `Snapshot.Carries`: the snapshot has a resource of a type with a name
* `Snapshot.Consistent`: names are unique, and references are met
* `Snapshot.Flaw`: what a fault says is wrong is so

## Main results

* `Snapshot.flaw_of_checkBy`: a fault of the check names a flaw
* `Snapshot.not_consistent_of_flaw`: a snapshot with a flaw is not consistent
* `Snapshot.check_decides`: the check passes just the consistent snapshots
-/

namespace TrafficPlane

open Wire

/-! ### References of resources -/

/-- The listener has a connection manager, in the form of these bytes. -/
def Listener.HasManager (listener : Listener) (bytes : Bytes) : Prop :=
  ∃ api, listener.api = some api ∧ api.manager = some ⟨ConnectionManager.typeUrl, bytes⟩

/-- The listener has a connection manager that can be decoded and that fetches the route
configuration with the name. -/
def Listener.AsksFor (decode : Bytes → Option ConnectionManager) (listener : Listener)
    (name : String) : Prop :=
  ∃ bytes manager reference, listener.HasManager bytes ∧ decode bytes = some manager ∧
    manager.routes = some (.discovery reference) ∧ reference.routeConfigName = name

/-- The listener has no connection manager, or one that has its routes from elsewhere. -/
def Listener.AsksForNone (decode : Bytes → Option ConnectionManager) (listener : Listener) : Prop :=
  ∀ bytes, listener.HasManager bytes → ∃ manager, decode bytes = some manager ∧
    ∀ reference, manager.routes ≠ some (.discovery reference)

/-- The route forwards requests to the cluster, either to it alone or to it among others by
weight. -/
def RouteEntry.SendsTo (route : RouteEntry) (name : String) : Prop :=
  ∃ action, route.action = some (.forward action) ∧
    (action.specifier = some (.single name) ∨
      ∃ clusters total, action.specifier = some (.weighted clusters total) ∧
        ∃ entry ∈ clusters, entry.name = name)

/-- A route of a virtual host of the configuration forwards requests to the cluster. -/
def RouteConfiguration.SendsTo (config : RouteConfiguration) (name : String) : Prop :=
  ∃ host ∈ config.virtualHosts, ∃ route ∈ host.routes, route.SendsTo name

/-- The endpoints of the cluster are fetched by the name: the service name of its discovery, or its
own where there is no discovery or the service name is empty. -/
def Cluster.FetchesBy (cluster : Cluster) (name : String) : Prop :=
  (∃ discovery, cluster.discovery = some discovery ∧ discovery.serviceName = name ∧ name ≠ "") ∨
    (∀ discovery, cluster.discovery = some discovery → discovery.serviceName = "") ∧
      cluster.name = name

namespace Snapshot

/-- A bundle of the snapshot has a resource of the type with the name. -/
def Carries (snapshot : Snapshot) (type : ResourceType) (name : String) : Prop :=
  ∃ bundle ∈ snapshot.bundles.values,
    match type with
    | .listener => bundle.listener.name = name
    | .routeConfiguration => bundle.routeConfiguration.name = name
    | .cluster => ∃ cluster ∈ bundle.clusters, cluster.name = name
    | .loadAssignment => ∃ assignment ∈ bundle.loadAssignments, assignment.clusterName = name

/-- Within each type names are unique, and whatever a resource refers to is carried along. -/
structure Consistent (decode : Bytes → Option ConnectionManager) (snapshot : Snapshot) : Prop where
  listeners_distinct : (snapshot.bundles.values.map (·.listener.name)).Nodup
  routeConfigurations_distinct : (snapshot.bundles.values.map (·.routeConfiguration.name)).Nodup
  clusters_distinct : ((snapshot.bundles.values.flatMap (·.clusters)).map (·.name)).Nodup
  loadAssignments_distinct :
    ((snapshot.bundles.values.flatMap (·.loadAssignments)).map (·.clusterName)).Nodup
  routes_met : ∀ bundle ∈ snapshot.bundles.values,
    ∃ name, bundle.listener.AsksFor decode name ∧ snapshot.Carries .routeConfiguration name
  clusters_met : ∀ bundle ∈ snapshot.bundles.values,
    ∀ name, bundle.routeConfiguration.SendsTo name → snapshot.Carries .cluster name
  endpoints_met : ∀ bundle ∈ snapshot.bundles.values, ∀ cluster ∈ bundle.clusters,
    ∃ name, cluster.FetchesBy name ∧ snapshot.Carries .loadAssignment name

/-- What the fault says is wrong with the snapshot is so. -/
inductive Flaw (decode : Bytes → Option ConnectionManager) (snapshot : Snapshot) :
    InternalCause → Prop where
  | repeatedName {type name} (htwice : 2 ≤ (snapshot.resourceNames type).count name) :
    Flaw decode snapshot (.repeatedName snapshot.version name type.url)
  | undecodableManager {bundle bytes} (hbundle : bundle ∈ snapshot.bundles.values)
    (hmanager : bundle.listener.HasManager bytes)
    (hbytes : decode bytes = none) :
    Flaw decode snapshot (.undecodableManager bundle.listener.name)
  | listenerWithoutRoutes {bundle} (hbundle : bundle ∈ snapshot.bundles.values)
    (hnone : bundle.listener.AsksForNone decode) :
    Flaw decode snapshot (.listenerWithoutRoutes bundle.listener.name)
  | missingRoutes {bundle name} (hbundle : bundle ∈ snapshot.bundles.values)
    (hasks : bundle.listener.AsksFor decode name)
    (hmissing : ¬ snapshot.Carries .routeConfiguration name) :
    Flaw decode snapshot (.danglingReference snapshot.version bundle.listener.name name)
  | missingCluster {bundle name} (hbundle : bundle ∈ snapshot.bundles.values)
    (hsends : bundle.routeConfiguration.SendsTo name)
    (hmissing : ¬ snapshot.Carries .cluster name) :
    Flaw decode snapshot (.danglingReference snapshot.version bundle.routeConfiguration.name name)
  | missingEndpoints {bundle cluster name} (hbundle : bundle ∈ snapshot.bundles.values)
    (hcluster : cluster ∈ bundle.clusters) (hfetches : cluster.FetchesBy name)
    (hmissing : ¬ snapshot.Carries .loadAssignment name) :
    Flaw decode snapshot (.danglingReference snapshot.version cluster.name name)

end Snapshot

/-! ### What the check reads of resources -/

namespace Listener

variable {listener : Listener} {bytes bytes' : Bytes} {name name' : String}
  {decode : Bytes → Option ConnectionManager}

theorem hasManager_iff : listener.HasManager bytes ↔
    listener.api.bind (·.manager) = some ⟨ConnectionManager.typeUrl, bytes⟩ :=
  Option.bind_eq_some_iff.symm

/-- A listener without a manager asks for nothing. -/
theorem routeConfigNameBy_of_not_hasManager (h : ∀ bytes, ¬ listener.HasManager bytes) :
    listener.routeConfigNameBy decode = .ok none := by
  rw [routeConfigNameBy]
  split
  · rfl
  · next packed hpacked =>
    refine if_pos fun htype => h packed.value (hasManager_iff.mpr ?_)
    rw [hpacked, ← htype]

/-- A listener with a manager asks for what its manager says, if that can be decoded. -/
theorem routeConfigNameBy_of_hasManager (decode : Bytes → Option ConnectionManager)
    (h : listener.HasManager bytes) :
    listener.routeConfigNameBy decode =
      match decode bytes with
      | none => .error (.undecodableManager listener.name)
      | some manager =>
        match manager.routes with
        | some (.discovery reference) => .ok (some reference.routeConfigName)
        | _ => .ok none := by
  rw [routeConfigNameBy, hasManager_iff.mp h]
  exact if_neg (not_not_intro rfl)

theorem HasManager.eq (h : listener.HasManager bytes) (h' : listener.HasManager bytes') :
    bytes = bytes' := by
  have hpacked := (hasManager_iff.mp h).symm.trans (hasManager_iff.mp h')
  exact congrArg Packed.value (Option.some.inj hpacked)

theorem routeConfigNameBy_of_asksFor (h : listener.AsksFor decode name) :
    listener.routeConfigNameBy decode = .ok (some name) := by
  obtain ⟨bytes, manager, reference, hmanager, hdecode, hroutes, rfl⟩ := h
  rw [routeConfigNameBy_of_hasManager decode hmanager, hdecode]
  simp only [hroutes]

/-- A listener asks for at most one route configuration. -/
theorem AsksFor.eq (h : listener.AsksFor decode name) (h' : listener.AsksFor decode name') :
    name = name' := by
  have hname := (routeConfigNameBy_of_asksFor h).symm.trans (routeConfigNameBy_of_asksFor h')
  exact Option.some.inj (Except.ok.inj hname)

theorem AsksForNone.not_asksFor (h : listener.AsksForNone decode) :
    ¬ listener.AsksFor decode name := by
  rintro ⟨bytes, manager, reference, hmanager, hdecode, hroutes, -⟩
  obtain ⟨manager', hdecode', hnone⟩ := h bytes hmanager
  obtain rfl := Option.some.inj (hdecode.symm.trans hdecode')
  exact hnone reference hroutes

/-- A listener asks for a route configuration, or for none, or its manager cannot be decoded. -/
theorem routeConfigNameBy_cases (decode : Bytes → Option ConnectionManager) (listener : Listener) :
    (∃ name, listener.routeConfigNameBy decode = .ok (some name) ∧ listener.AsksFor decode name) ∨
      (listener.routeConfigNameBy decode = .ok none ∧ listener.AsksForNone decode) ∨
      ∃ bytes, listener.routeConfigNameBy decode = .error (.undecodableManager listener.name) ∧
        listener.HasManager bytes ∧ decode bytes = none := by
  by_cases hmanager : ∃ bytes, listener.HasManager bytes
  · obtain ⟨bytes, hmanager⟩ := hmanager
    have hname := routeConfigNameBy_of_hasManager decode hmanager
    cases hdecode : decode bytes with
    | none =>
      rw [hdecode] at hname
      exact .inr (.inr ⟨bytes, hname, hmanager, hdecode⟩)
    | some manager =>
      rw [hdecode] at hname
      dsimp only at hname
      split at hname
      · next reference hroutes =>
        exact .inl ⟨_, hname, bytes, manager, reference, hmanager, hdecode, hroutes, rfl⟩
      · next hother =>
        refine .inr (.inl ⟨hname, fun bytes' hmanager' => ⟨manager, ?_, hother⟩⟩)
        rw [hmanager'.eq hmanager, hdecode]
  · have hnone := not_exists.mp hmanager
    exact .inr (.inl ⟨routeConfigNameBy_of_not_hasManager hnone,
      fun bytes h => absurd h (hnone bytes)⟩)

theorem routeConfigNameBy_eq_some_iff :
    listener.routeConfigNameBy decode = .ok (some name) ↔ listener.AsksFor decode name := by
  refine ⟨fun h => ?_, routeConfigNameBy_of_asksFor⟩
  rcases listener.routeConfigNameBy_cases decode with
    ⟨name', hname, hasks⟩ | ⟨hname, -⟩ | ⟨bytes, hname, -⟩
  · obtain rfl := Option.some.inj (Except.ok.inj (hname.symm.trans h))
    exact hasks
  · cases hname.symm.trans h
  · cases hname.symm.trans h

end Listener

theorem RouteEntry.mem_referencedClusters_iff {route : RouteEntry} {name : String} :
    name ∈ route.referencedClusters ↔ route.SendsTo name := by
  rw [referencedClusters, SendsTo]
  rcases route.action with _ | ⟨⟨specifier, limits⟩⟩ | _ | _ | _ | _
  case some.forward =>
    rcases specifier with _ | name' | ⟨clusters, total⟩ | _ | _ | _ <;> simp [eq_comm]
  -- all other routes name no cluster
  all_goals simp

theorem RouteConfiguration.mem_referencedClusters_iff {config : RouteConfiguration}
    {name : String} : name ∈ config.referencedClusters ↔ config.SendsTo name := by
  simp only [referencedClusters, SendsTo, List.mem_flatMap, RouteEntry.mem_referencedClusters_iff]

/-- A cluster has one name by which its endpoints are fetched. -/
theorem Cluster.fetchesBy_iff {cluster : Cluster} {name : String} :
    cluster.FetchesBy name ↔ cluster.assignmentName = name := by
  rw [FetchesBy, assignmentName]
  cases cluster.discovery with
  | none => simp
  | some discovery =>
    simp only [Option.some.injEq, exists_eq_left', forall_eq', Option.map_some,
      Option.filter_some, decide_eq_true_eq]
    -- an empty service name counts as if there were none
    split_ifs with hname
    · simp only [Option.getD_some, hname, false_and, or_false, and_iff_left_iff_imp]
      exact fun heq => heq ▸ hname
    · rw [not_not] at hname
      simp only [Option.getD_none, hname, true_and, or_iff_right_iff_imp]
      exact fun h => absurd h.1.symm h.2

namespace Snapshot

variable {snapshot : Snapshot} {bundle : Bundle} {type : ResourceType} {name : String}
  {cause : InternalCause} {decode : Bytes → Option ConnectionManager}

theorem carries_iff : snapshot.Carries type name ↔ name ∈ snapshot.resourceNames type := by
  rw [Carries, resourceNames, List.mem_flatMap]
  cases type <;> simp [Bundle.resourceNames, eq_comm]

/-! ### The verdict of the check -/

/-- Names are unique within each type just when the names of each list are. -/
theorem nodup_resourceNames_iff : (∀ type, (snapshot.resourceNames type).Nodup) ↔
    (snapshot.bundles.values.map (·.listener.name)).Nodup ∧
    (snapshot.bundles.values.map (·.routeConfiguration.name)).Nodup ∧
    ((snapshot.bundles.values.flatMap (·.clusters)).map (·.name)).Nodup ∧
    ((snapshot.bundles.values.flatMap (·.loadAssignments)).map (·.clusterName)).Nodup := by
  have hlisteners : snapshot.resourceNames .listener =
      snapshot.bundles.values.map (·.listener.name) := List.map_eq_flatMap.symm
  have hroutes : snapshot.resourceNames .routeConfiguration =
      snapshot.bundles.values.map (·.routeConfiguration.name) := List.map_eq_flatMap.symm
  have hclusters : snapshot.resourceNames .cluster =
      (snapshot.bundles.values.flatMap (·.clusters)).map (·.name) := List.map_flatMap.symm
  have hassignments : snapshot.resourceNames .loadAssignment =
      (snapshot.bundles.values.flatMap (·.loadAssignments)).map (·.clusterName) :=
    List.map_flatMap.symm
  rw [← hlisteners, ← hroutes, ← hclusters, ← hassignments]
  constructor
  · intro h
    exact ⟨h _, h _, h _, h _⟩
  · rintro ⟨hlisteners, hroutes, hclusters, hassignments⟩ type
    cases type <;> assumption

/-- A snapshot passes its check just when it is consistent. -/
theorem checkBy_eq_ok_iff_consistent :
    snapshot.checkBy decode = .ok () ↔ snapshot.Consistent decode := by
  simp only [checkBy_eq_ok_iff, nodup_resourceNames_iff, checkBundle_eq_ok_iff, ← carries_iff,
    Listener.routeConfigNameBy_eq_some_iff, RouteConfiguration.mem_referencedClusters_iff]
  constructor
  · rintro ⟨⟨hlisteners, hroutes, hclusters, hassignments⟩, hbundles⟩
    refine ⟨hlisteners, hroutes, hclusters, hassignments, fun bundle hbundle =>
      (hbundles bundle hbundle).1, fun bundle hbundle => (hbundles bundle hbundle).2.1,
      fun bundle hbundle cluster hcluster => ?_⟩
    exact ⟨_, Cluster.fetchesBy_iff.mpr rfl, (hbundles bundle hbundle).2.2 cluster hcluster⟩
  · intro h
    refine ⟨⟨h.listeners_distinct, h.routeConfigurations_distinct, h.clusters_distinct,
      h.loadAssignments_distinct⟩, fun bundle hbundle =>
      ⟨h.routes_met bundle hbundle, h.clusters_met bundle hbundle, fun cluster hcluster => ?_⟩⟩
    obtain ⟨name, hfetches, hcarries⟩ := h.endpoints_met bundle hbundle cluster hcluster
    rwa [Cluster.fetchesBy_iff.mp hfetches]

theorem checkReference_eq_error_iff {source target : String} :
    snapshot.checkReference type source target = .error cause ↔
      ¬ snapshot.Carries type target ∧
        cause = .danglingReference snapshot.version source target := by
  rw [carries_iff, checkReference]
  split_ifs with h
  · exact iff_of_false (by simp) fun hmissing => hmissing.1 (by simpa using h)
  · have hmissing : target ∉ snapshot.resourceNames type := by simpa using h
    rw [Except.error.injEq, and_iff_right hmissing, eq_comm]

/-- A fault of a bundle's check names a flaw of the snapshot. -/
theorem flaw_of_checkBundle (hbundle : bundle ∈ snapshot.bundles.values)
    (h : snapshot.checkBundle decode bundle = .error cause) : snapshot.Flaw decode cause := by
  -- the listener is checked first, then the routes, and the clusters last
  rcases bind_eq_error_iff.mp h with h | ⟨-, -, h⟩
  · rw [checkListener] at h
    rcases bundle.listener.routeConfigNameBy_cases decode with
      ⟨name, hname, hasks⟩ | ⟨hname, hnone⟩ | ⟨bytes, hname, hmanager, hbytes⟩
    · rw [hname] at h
      obtain ⟨hmissing, rfl⟩ := checkReference_eq_error_iff.mp h
      exact .missingRoutes hbundle hasks hmissing
    · rw [hname] at h
      obtain rfl := Except.error.inj h
      exact .listenerWithoutRoutes hbundle hnone
    · rw [hname] at h
      obtain rfl := Except.error.inj h
      exact .undecodableManager hbundle hmanager hbytes
  rcases bind_eq_error_iff.mp h with h | ⟨-, -, h⟩
  · obtain ⟨name, hname, h⟩ := exists_of_checkEach_eq_error h
    obtain ⟨hmissing, rfl⟩ := checkReference_eq_error_iff.mp h
    exact .missingCluster hbundle (RouteConfiguration.mem_referencedClusters_iff.mp hname) hmissing
  · obtain ⟨cluster, hcluster, h⟩ := exists_of_checkEach_eq_error h
    obtain ⟨hmissing, rfl⟩ := checkReference_eq_error_iff.mp h
    exact .missingEndpoints hbundle hcluster (Cluster.fetchesBy_iff.mpr rfl) hmissing

/-- A fault of the check names a flaw of the snapshot. -/
theorem flaw_of_checkBy (h : snapshot.checkBy decode = .error cause) :
    snapshot.Flaw decode cause := by
  -- the names of all bundles are checked before any of their references
  rcases bind_eq_error_iff.mp h with h | ⟨-, -, h⟩
  · obtain ⟨type, -, h⟩ := exists_of_checkEach_eq_error h
    rw [checkNames] at h
    split at h
    · next name hrepeated =>
      obtain rfl := Except.error.inj h
      obtain ⟨-, hseen | htwice⟩ := two_le_count_of_firstRepeated? hrepeated
      · exact absurd hseen List.not_mem_nil
      · exact .repeatedName htwice
    · cases h
  · obtain ⟨bundle, hbundle, h⟩ := exists_of_checkEach_eq_error h
    exact flaw_of_checkBundle hbundle h

/-- A snapshot with a flaw is not consistent. -/
theorem not_consistent_of_flaw (h : snapshot.Flaw decode cause) :
    ¬ snapshot.Consistent decode := by
  intro hconsistent
  cases h with
  | repeatedName htwice =>
    -- the names of this type are found distinct by the check, which a consistent snapshot passes
    have hnodup := (checkBy_eq_ok_iff.mp (checkBy_eq_ok_iff_consistent.mpr hconsistent)).1
    exact absurd (List.nodup_iff_count_le_one.mp (hnodup _) _) (Nat.not_le.mpr htwice)
  | undecodableManager hbundle hmanager hbytes =>
    obtain ⟨name, ⟨bytes', manager, -, hmanager', hdecode, -⟩, -⟩ :=
      hconsistent.routes_met _ hbundle
    rw [hmanager'.eq hmanager, hbytes] at hdecode
    cases hdecode
  | listenerWithoutRoutes hbundle hnone =>
    obtain ⟨name, hasks, -⟩ := hconsistent.routes_met _ hbundle
    exact hnone.not_asksFor hasks
  | missingRoutes hbundle hasks hmissing =>
    obtain ⟨name, hasks', hcarries⟩ := hconsistent.routes_met _ hbundle
    exact hmissing (hasks'.eq hasks ▸ hcarries)
  | missingCluster hbundle hsends hmissing =>
    exact hmissing (hconsistent.clusters_met _ hbundle _ hsends)
  | missingEndpoints hbundle hcluster hfetches hmissing =>
    obtain ⟨name, hfetches', hcarries⟩ := hconsistent.endpoints_met _ hbundle _ hcluster
    rw [← Cluster.fetchesBy_iff.mp hfetches', Cluster.fetchesBy_iff.mp hfetches] at hcarries
    exact hmissing hcarries

/-- Whatever bundles a snapshot is made of, and however managers are decoded, the check passes just
when the snapshot is consistent. Otherwise it fails, with a fault that names a flaw of the
snapshot. -/
theorem check_decides (decode : Bytes → Option ConnectionManager) (snapshot : Snapshot) :
    (snapshot.checkBy decode = .ok () ↔ snapshot.Consistent decode) ∧
      (¬ snapshot.Consistent decode ↔
        ∃ cause, snapshot.checkBy decode = .error cause ∧ snapshot.Flaw decode cause) := by
  refine ⟨checkBy_eq_ok_iff_consistent, fun h => ?_, ?_⟩
  · cases hcheck : snapshot.checkBy decode with
    | ok _ => exact absurd (checkBy_eq_ok_iff_consistent.mp hcheck) h
    | error cause => exact ⟨cause, rfl, flaw_of_checkBy hcheck⟩
  · rintro ⟨cause, -, hflaw⟩
    exact not_consistent_of_flaw hflaw

end Snapshot

end TrafficPlane
