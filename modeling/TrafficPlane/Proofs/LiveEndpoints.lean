import TrafficPlane.Proofs.Acceptance
import TrafficPlane.Proofs.KeyMap
import TrafficPlane.Proofs.Membership

/-!
# What live endpoints can change

A spec stays as its operator has written it, while the endpoints of the services that it refers to
come and go. Whether it has a bundle is a matter of both: of the declaration, which no endpoints
mend, and of the entries that the membership has for those services. Faults of configuration speak
of the first and faults of resolution of the second.

## Main definitions

* `RoutingSpec.WellDeclared`: what a spec has to declare, whatever the membership is
* `RoutingSpec.ServedBy`: what a membership has to have for the services of a spec
* `RoutingSpec.provision`: a membership that has it, for any spec

## Main results

* `RoutingSpec.acceptable_iff`: an acceptable spec is well declared and served
* `Bundle.synthesize_eq_error_kinds`: the kind of a fault tells which of the two is missing
* `RoutingSpec.wellDeclared_iff_exists_synthesize`: a spec that is well declared has a bundle under
  some membership, and no other spec has
* `Bundle.config_fault_permanent`: a fault of configuration under one membership is a fault under
  every membership
* `Bundle.synthesize_reads_services_only`: entries of other services never count, and those of the
  services of a spec do
-/

namespace TrafficPlane

variable {spec : RoutingSpec} {index : MembershipIndex} {space : String}

/-! ### The declaration and the membership -/

/-- A cluster has localities, each of a service, whose priorities have no gaps. -/
structure ClusterSpec.WellDeclared (cluster : ClusterSpec) : Prop where
  localities_ne_nil : cluster.localities ≠ []
  priorities : ∀ locality ∈ cluster.localities, ∀ smaller < locality.priority,
    ∃ other ∈ cluster.localities, other.priority = smaller
  services : ∀ locality ∈ cluster.localities, locality.service ≠ none

/-- A spec names its listener and its clusters, its routes are acceptable, and its clusters are well
declared. -/
structure RoutingSpec.WellDeclared (spec : RoutingSpec) : Prop where
  distinct : (spec.clusters.map (·.name)).Nodup
  routes : ∀ route ∈ spec.routes, route.Acceptable spec
  listener : Text.trim spec.listener ≠ ""
  clusters : ∀ cluster ∈ spec.clusters, cluster.WellDeclared

/-- The membership of the service that a reference means is there, with the port in every subset. -/
def ServiceRef.ServedBy (index : MembershipIndex) (space : String) (ref : ServiceRef) : Prop :=
  ∃ membership, index.find? (ref.key space) = some membership ∧
    ∀ subset ∈ membership.subsets, ref.port.FoundIn subset

/-- Every service that the cluster refers to is served. -/
def ClusterSpec.ServedBy (index : MembershipIndex) (space : String) (cluster : ClusterSpec) :
    Prop :=
  ∀ locality ∈ cluster.localities, ∀ ref, locality.service = some ref → ref.ServedBy index space

/-- Every service that the spec refers to is served. -/
def RoutingSpec.ServedBy (index : MembershipIndex) (spec : RoutingSpec) : Prop :=
  ∀ cluster ∈ spec.clusters, cluster.ServedBy index spec.space

theorem Locality.acceptable_iff {locality : Locality} :
    locality.Acceptable index space ↔ locality.service ≠ none ∧
      ∀ ref, locality.service = some ref → ref.ServedBy index space := by
  rw [Locality.Acceptable]
  cases locality.service with
  | none => simp
  | some ref => simp [ServiceRef.ServedBy, ServiceRef.key]

/-- A cluster is acceptable if its declaration is sound and its services are served. -/
theorem ClusterSpec.acceptable_iff {cluster : ClusterSpec} :
    cluster.Acceptable index space ↔ cluster.WellDeclared ∧ cluster.ServedBy index space := by
  constructor
  · rintro ⟨hne, hpriorities, hlocalities⟩
    have hboth := fun locality hmem => Locality.acceptable_iff.mp (hlocalities locality hmem)
    exact ⟨⟨hne, hpriorities, fun locality hmem => (hboth locality hmem).1⟩,
      fun locality hmem => (hboth locality hmem).2⟩
  · rintro ⟨⟨hne, hpriorities, hservices⟩, hserved⟩
    exact ⟨hne, hpriorities, fun locality hmem =>
      Locality.acceptable_iff.mpr ⟨hservices locality hmem, hserved locality hmem⟩⟩

/-- A spec is acceptable if its declaration is sound and its services are served. -/
theorem RoutingSpec.acceptable_iff :
    spec.Acceptable index ↔ spec.WellDeclared ∧ spec.ServedBy index := by
  constructor
  · rintro ⟨hdistinct, hroutes, hlistener, hclusters⟩
    have hboth := fun cluster hmem => ClusterSpec.acceptable_iff.mp (hclusters cluster hmem)
    exact ⟨⟨hdistinct, hroutes, hlistener, fun cluster hmem => (hboth cluster hmem).1⟩,
      fun cluster hmem => (hboth cluster hmem).2⟩
  · rintro ⟨⟨hdistinct, hroutes, hlistener, hclusters⟩, hserved⟩
    exact ⟨hdistinct, hroutes, hlistener, fun cluster hmem =>
      ClusterSpec.acceptable_iff.mpr ⟨hclusters cluster hmem, hserved cluster hmem⟩⟩

/-! ### What the kind of a fault tells -/

/-- A cluster without endpoints is not well declared, or some service of it is not served. The kind
of the fault tells which one was noticed. -/
theorem ClusterSpec.resolve_eq_error_kinds {cluster : ClusterSpec} {fault : Fault}
    (h : cluster.resolve index space = .error fault) :
    (fault.kind = .config ∧ ¬ cluster.WellDeclared) ∨
      (fault.kind = .resolution ∧ ¬ cluster.ServedBy index space) := by
  rcases ClusterSpec.resolve_eq_error_cases h with
    ⟨hdeclared, hkind⟩ | ⟨locality, hmem, cause, hcause, rfl⟩
  · refine .inl ⟨hkind, fun hwell => ?_⟩
    rcases hdeclared with hnil | hgaps
    · exact hwell.localities_ne_nil hnil
    · exact hgaps (ClusterSpec.contiguous_iff.mpr hwell.priorities)
  · rw [Fault.kind_inCluster]
    rcases Locality.resolve_eq_error_cases hcause with ⟨hnone, hkind⟩ | ⟨hservice, hkind⟩
    · exact .inl ⟨hkind, fun hwell => hwell.services locality hmem hnone⟩
    · refine .inr ⟨hkind, fun hserved => ?_⟩
      -- served, this locality would have had endpoints
      obtain ⟨resolved, hresolved⟩ := Locality.exists_resolve_iff.mpr
        (Locality.acceptable_iff.mpr ⟨hservice, hserved locality hmem⟩)
      simp [hresolved] at hcause

/-- A spec without a bundle is not well declared, or some service of it is not served. The kind of
the fault tells which one was noticed first. -/
theorem Bundle.synthesize_eq_error_kinds {fault : Fault}
    (h : Bundle.synthesize spec index = .error fault) :
    (fault.kind = .config ∧ ¬ spec.WellDeclared) ∨
      (fault.kind = .resolution ∧ ¬ spec.ServedBy index) := by
  rcases Bundle.synthesize_eq_error_cases h with ⟨cause, hprepare, rfl⟩ | ⟨cluster, hmem, hcluster⟩
  · refine .inl ⟨rfl, fun hwell => ?_⟩
    obtain ⟨prepared, hprepared⟩ :=
      RoutingSpec.exists_prepare_iff.mpr ⟨hwell.distinct, hwell.routes, hwell.listener⟩
    simp [hprepared] at hprepare
  · exact (ClusterSpec.resolve_eq_error_kinds hcluster).imp
      (.imp_right fun hnot hwell => hnot (hwell.clusters cluster hmem))
      (.imp_right fun hnot hserved => hnot (hserved cluster hmem))

/-! ### Specs that some membership serves -/

/-- A membership without endpoints, in which no port is missing. -/
def Membership.vacant (service : QualifiedName) : Membership where
  name := service.name
  space := service.space

/-- A membership without endpoints for every service that a spec refers to. -/
def RoutingSpec.provision (spec : RoutingSpec) : MembershipIndex :=
  .ofList (spec.services.map .vacant)

theorem RoutingSpec.servedBy_provision (spec : RoutingSpec) : spec.ServedBy spec.provision := by
  intro cluster hcluster locality hlocality ref href
  have hservice : ref.key spec.space ∈ spec.services :=
    RoutingSpec.mem_services_iff.mpr ⟨cluster, hcluster, locality, hlocality, ref, href, rfl⟩
  obtain ⟨membership, hmem, hfound⟩ :=
    KeyMap.exists_find?_ofList Membership.key
      (List.mem_map.mpr ⟨_, hservice, (rfl : Membership.vacant _ = _)⟩)
  obtain ⟨service, -, rfl⟩ := List.mem_map.mp hmem
  exact ⟨.vacant service, hfound, nofun⟩

/-- Under some membership a spec that is well declared has a bundle, and no other spec has. -/
theorem RoutingSpec.wellDeclared_iff_exists_synthesize :
    spec.WellDeclared ↔ ∃ index bundle, Bundle.synthesize spec index = .ok bundle := by
  simp only [Bundle.exists_synthesize_iff, RoutingSpec.acceptable_iff]
  exact ⟨fun hwell => ⟨spec.provision, hwell, spec.servedBy_provision⟩,
    fun ⟨_, hwell, _⟩ => hwell⟩

/-- Synthesis fails with a fault of configuration under some membership just when it fails under
every one. The faults may differ: where two clusters are at fault, the first one is reported, and
its services may be served under one membership and not under another. -/
theorem Bundle.config_fault_permanent (spec : RoutingSpec) :
    (∃ index fault, Bundle.synthesize spec index = .error fault ∧ fault.kind = .config) ↔
      ∀ index, ∃ fault, Bundle.synthesize spec index = .error fault := by
  constructor
  · rintro ⟨index, fault, hfault, hkind⟩ other
    -- what is wrong with the declaration is so under the other membership too
    have hwell : ¬ spec.WellDeclared := by
      rcases Bundle.synthesize_eq_error_kinds hfault with ⟨-, hwell⟩ | ⟨hresolution, -⟩
      · exact hwell
      · simp [hkind] at hresolution
    cases hother : Bundle.synthesize spec other with
    | error fault' => exact ⟨fault', rfl⟩
    | ok bundle =>
      exact absurd (RoutingSpec.wellDeclared_iff_exists_synthesize.mpr ⟨other, bundle, hother⟩) hwell
  · intro hfails
    -- where all services are served, a fault is one of the declaration
    obtain ⟨fault, hfault⟩ := hfails spec.provision
    rcases Bundle.synthesize_eq_error_kinds hfault with ⟨hkind, -⟩ | ⟨-, hserved⟩
    · exact ⟨spec.provision, fault, hfault, hkind⟩
    · exact absurd spec.servedBy_provision hserved

-- the first cluster is at fault if its service is not served, and the second one in any case
example :
    let spec : RoutingSpec := {
      name := "b", listener := "l"
      clusters := [
        { name := "c", localities := [{ service := some { name := "s", port := .numbered 80 } }] },
        { name := "d" }] }
    let kind? (index : MembershipIndex) :=
      match Bundle.synthesize spec index with
      | .ok _ => none
      | .error fault => some fault.kind
    kind? .empty = some .resolution ∧ kind? (.ofList [{ name := "s" }]) = some .config := by
  decide +kernel

/-! ### Services that do not count -/

/-- Lists of memberships are alike to a spec if the entries of its services are. -/
theorem Bundle.synthesize_ofList_congr {memberships memberships' : List Membership}
    (h : memberships.filter (·.key ∈ spec.services) = memberships'.filter (·.key ∈ spec.services)) :
    Bundle.synthesize spec (.ofList memberships) = Bundle.synthesize spec (.ofList memberships') := by
  refine Bundle.synthesize_congr fun service hservice => ?_
  -- the last entry of a service is found, and dropping others keeps the entries of this one
  have hentries (list : List Membership) :
      (list.filter (·.key ∈ spec.services)).filter (·.key = service) =
        list.filter (·.key = service) := by
    rw [List.filter_filter]
    refine List.filter_congr fun membership _ => ?_
    by_cases hkey : membership.key = service <;> simp [hkey, hservice]
  rw [MembershipIndex.ofList, MembershipIndex.ofList, KeyMap.find?_ofList, KeyMap.find?_ofList,
    ← hentries memberships, h, hentries]

/-- The loss of a service that a spec refers to is a fault of resolution. -/
theorem Bundle.exists_synthesize_erase {bundle : Bundle} {service : QualifiedName}
    (h : Bundle.synthesize spec index = .ok bundle) (hservice : service ∈ spec.services) :
    ∃ fault, Bundle.synthesize spec (index.erase service) = .error fault ∧
      fault.kind = .resolution := by
  have hwell : spec.WellDeclared :=
    RoutingSpec.wellDeclared_iff_exists_synthesize.mpr ⟨index, bundle, h⟩
  obtain ⟨cluster, hcluster, locality, hlocality, ref, href, rfl⟩ :=
    RoutingSpec.mem_services_iff.mp hservice
  -- the declaration is still sound, so the fault is that the service is not served
  have hserved : ¬ spec.ServedBy (index.erase (ref.key spec.space)) := by
    intro hserved
    obtain ⟨membership, hfound, -⟩ := hserved cluster hcluster locality hlocality ref href
    simp [KeyMap.find?_erase_self] at hfound
  cases herase : Bundle.synthesize spec (index.erase (ref.key spec.space)) with
  | ok bundle' =>
    exact absurd (RoutingSpec.acceptable_iff.mp
      (Bundle.exists_synthesize_iff.mp ⟨bundle', herase⟩)).2 hserved
  | error fault =>
    rcases Bundle.synthesize_eq_error_kinds herase with ⟨-, hnot⟩ | ⟨hkind, -⟩
    · exact absurd hwell hnot
    · exact ⟨fault, rfl, hkind⟩

/-- Memberships that agree on the services of a spec give it the same bundle or the same fault. So
do lists of memberships with the same entries of these services, and a membership in which the entry
of another service, of the same name in another namespace even, is put, replaced or left out. The
services of a spec do count, each of them: a spec with a bundle has none without its entry. -/
theorem Bundle.synthesize_reads_services_only (spec : RoutingSpec) :
    (∀ index index' : MembershipIndex,
      (∀ cluster ∈ spec.clusters, ∀ locality ∈ cluster.localities, ∀ ref,
        locality.service = some ref →
          index.find? ⟨ref.space.getD spec.space, ref.name⟩ =
            index'.find? ⟨ref.space.getD spec.space, ref.name⟩) →
      Bundle.synthesize spec index = Bundle.synthesize spec index') ∧
    (∀ memberships memberships' : List Membership,
      memberships.filter (·.key ∈ spec.services) = memberships'.filter (·.key ∈ spec.services) →
      Bundle.synthesize spec (.ofList memberships) =
        Bundle.synthesize spec (.ofList memberships')) ∧
    (∀ (index : MembershipIndex) (other : QualifiedName), other ∉ spec.services →
      (∀ membership, Bundle.synthesize spec (index.insert other membership) =
        Bundle.synthesize spec index) ∧
      Bundle.synthesize spec (index.erase other) = Bundle.synthesize spec index) ∧
    ∀ (index : MembershipIndex) (bundle : Bundle), ∀ service ∈ spec.services,
      Bundle.synthesize spec index = .ok bundle →
      ∃ fault, Bundle.synthesize spec (index.erase service) = .error fault ∧
        fault.kind = .resolution := by
  refine ⟨fun index index' hagree => ?agree, fun _ _ h => Bundle.synthesize_ofList_congr h,
    fun index other hother => ?other,
    fun _ _ _ hservice h => Bundle.exists_synthesize_erase h hservice⟩
  case agree =>
    refine Bundle.synthesize_congr fun service hservice => ?_
    obtain ⟨cluster, hcluster, locality, hlocality, ref, href, rfl⟩ :=
      RoutingSpec.mem_services_iff.mp hservice
    exact hagree cluster hcluster locality hlocality ref href
  case other =>
    have hne : ∀ service ∈ spec.services, service ≠ other := fun service hservice heq =>
      hother (heq ▸ hservice)
    constructor
    · exact fun membership => Bundle.synthesize_congr fun service hservice =>
        KeyMap.find?_insert_of_ne index (hne service hservice)
    · exact Bundle.synthesize_congr fun service hservice =>
        KeyMap.find?_erase_of_ne (hne service hservice)

/-- A spec in `team` refers to a service of its own namespace and to one of that name in `other`. A
third one of that name, in the namespace of documents that name none, is no concern of it. -/
theorem Bundle.synthesize_reads_services_only_of_two_namespaces :
    let spec : RoutingSpec := {
      name := "b", space := "team", listener := "l"
      clusters := [
        { name := "c", localities := [{ service := some { name := "s", port := .named "http" } }] },
        { name := "d"
          localities := [
            { service := some { name := "s", space := some "other", port := .numbered 80 } }] }] }
    let own : Membership := {
      name := "s", space := "team"
      subsets := [{ addresses := ["10.0.0.1"], ports := [{ name := some "http", number := 8080 }] }] }
    let theirs : Membership := {
      name := "s", space := "other"
      subsets := [{ addresses := ["10.0.0.2"], ports := [{ number := 80 }] }] }
    let stray : Membership := { name := "s" }
    let index := MembershipIndex.ofList [own, theirs]
    ∃ bundle fault,
      Bundle.synthesize spec index = .ok bundle ∧
      Bundle.synthesize spec (.ofList [theirs, stray, own]) = .ok bundle ∧
      Bundle.synthesize spec (.ofList [stray, own, theirs, stray]) = .ok bundle ∧
      Bundle.synthesize spec (index.insert stray.key stray) = .ok bundle ∧
      Bundle.synthesize spec (index.erase stray.key) = .ok bundle ∧
      Bundle.synthesize spec (index.erase own.key) = .error fault ∧ fault.kind = .resolution := by
  intro spec own theirs stray index
  obtain ⟨bundle, hbundle⟩ : ∃ bundle, Bundle.synthesize spec index = .ok bundle :=
    exists_of_isSome (by decide +kernel)
  obtain ⟨hagree, hlists, hother, hservice⟩ := Bundle.synthesize_reads_services_only spec
  obtain ⟨hinsert, herase⟩ := hother index stray.key (by decide)
  obtain ⟨fault, hfault, hkind⟩ := hservice index bundle own.key (by decide) hbundle
  have hreordered : Bundle.synthesize spec index =
      Bundle.synthesize spec (.ofList [theirs, stray, own]) := by
    refine hagree _ _ ?_
    simp only [spec, List.forall_mem_singleton, List.forall_mem_cons, Option.some.injEq,
      forall_eq']
    decide
  have hstray : Bundle.synthesize spec index =
      Bundle.synthesize spec (.ofList [stray, own, theirs, stray]) := hlists _ _ (by decide)
  exact ⟨bundle, fault, hbundle, hreordered ▸ hbundle, hstray ▸ hbundle,
    (hinsert stray).trans hbundle, herase.trans hbundle, hfault, hkind⟩

end TrafficPlane
