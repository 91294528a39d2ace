import TrafficPlane.Proofs.Acceptance
import TrafficPlane.Proofs.Messages

/-!
# The endpoints of a load assignment

A load assignment has one group for each locality that its cluster declares. The group lists every
address of the locality's service once, in the order of the membership, with the port that the
locality's reference selects in the address's own subset. There is no other way for an address to
get into an assignment, and none for it to be passed over: where a single subset lacks the port,
there is no assignment at all.

## Main definitions

* `PortRef.FirstIn`: the number of the first port of a subset that a reference means
* `Endpoint.ofSubsets`: the addresses of subsets, each with the port number of its subset
* `LocalityGroup.Covers`: a group lists the endpoints of a locality's service
* `LocalityGroup.sockets`: the socket addresses that the bytes of a group hold

## Main results

* `Subset.port?_eq_some_iff`: the port that a reference selects is the first one that it means
* `Locality.resolve_eq_ok_iff`: the endpoints of a locality
* `LocalityGroup.sockets_encodeFields`: a group is sent as socket addresses over TCP
* `LoadAssignment.lists_live_endpoints`: an assignment lists the endpoints of its localities and
  nothing else, or there is none
-/

namespace TrafficPlane

open Wire

variable {index : MembershipIndex} {space name : String}

/-! ### Ports -/

/-- The reference gives the name, or else the number, of the port. -/
def PortRef.Means (ref : PortRef) (port : MembershipPort) : Prop :=
  match ref with
  | .named name => port.name = some name
  | .numbered number => port.number = number

/-- Of the ports of the subset that the reference means, the first one has the number. -/
def PortRef.FirstIn (ref : PortRef) (subset : Subset) (number : UInt16) : Prop :=
  ∃ before port after, subset.ports = before ++ port :: after ∧ ref.Means port ∧
    port.number = number ∧ ∀ earlier ∈ before, ¬ ref.Means earlier

theorem PortRef.selects_iff {ref : PortRef} {port : MembershipPort} :
    ref.selects port ↔ ref.Means port := by
  cases ref <;> exact beq_iff_eq

/-- The port that a reference selects in a subset is the first one that it means. -/
theorem Subset.port?_eq_some_iff {subset : Subset} {ref : PortRef} {number : UInt16} :
    subset.port? ref = some number ↔ ref.FirstIn subset number := by
  simp only [Subset.port?, Option.map_eq_some_iff, List.find?_eq_some_iff_append,
    Bool.not_eq_true', ← Bool.not_eq_true, PortRef.selects_iff]
  constructor
  · rintro ⟨port, ⟨hport, before, after, hports, hbefore⟩, hnumber⟩
    exact ⟨before, port, after, hports, hport, hnumber, hbefore⟩
  · rintro ⟨before, port, after, hports, hport, hnumber, hbefore⟩
    exact ⟨port, ⟨hport, before, after, hports, hbefore⟩, hnumber⟩

/-! ### Endpoints -/

/-- The addresses of the subsets, one subset after the other, each with the port number of its
subset. -/
def Endpoint.ofSubsets (subsets : List Subset) (numbers : List UInt16) : List Endpoint :=
  (subsets.zip numbers).flatMap fun (subset, number) =>
    subset.addresses.map fun address => { address, port := number }

/-- The addresses of endpoints are those of the subsets that they were made of. -/
theorem Endpoint.map_address_ofSubsets {subsets : List Subset} {numbers : List UInt16}
    (h : subsets.length = numbers.length) :
    (ofSubsets subsets numbers).map (·.address) = subsets.flatMap (·.addresses) := by
  have hfirst : (subsets.zip numbers).map Prod.fst = subsets := List.map_fst_zip (Nat.le_of_eq h)
  conv_rhs => rw [← hfirst]
  simp [ofSubsets, List.map_flatMap, List.flatMap_map, Function.comp_def]

theorem Subset.endpoints_eq_ok_iff {service : QualifiedName} {ref : PortRef} {subset : Subset}
    {endpoints : List Endpoint} :
    subset.endpoints service ref = .ok endpoints ↔ ∃ number, ref.FirstIn subset number ∧
      endpoints = subset.addresses.map fun address => { address, port := number } := by
  simp only [← Subset.port?_eq_some_iff, Subset.endpoints]
  cases subset.port? ref <;> simp [eq_comm]

/-- The lists of endpoints that subsets give, put together, are those of the subsets with the
numbers of their ports. -/
theorem Subset.exists_flatten_iff {service : QualifiedName} {ref : PortRef} {subsets : List Subset}
    {endpoints : List Endpoint} :
    (∃ lists, subsets.mapM (Subset.endpoints service ref) = .ok lists ∧
        lists.flatten = endpoints) ↔
      ∃ numbers, List.Forall₂ ref.FirstIn subsets numbers ∧
        endpoints = Endpoint.ofSubsets subsets numbers := by
  simp only [mapM_eq_ok_iff]
  constructor
  · rintro ⟨lists, hlists, rfl⟩
    induction hlists with
    | nil => exact ⟨[], .nil, rfl⟩
    | cons hfirst _ ih =>
      obtain ⟨number, hnumber, rfl⟩ := Subset.endpoints_eq_ok_iff.mp hfirst
      obtain ⟨numbers, hnumbers, hrest⟩ := ih
      exact ⟨number :: numbers, .cons hnumber hnumbers, by rw [List.flatten_cons, hrest]; rfl⟩
  · rintro ⟨numbers, hnumbers, rfl⟩
    induction hnumbers with
    | nil => exact ⟨[], .nil, rfl⟩
    | cons hfirst _ ih =>
      obtain ⟨lists, hlists, hflatten⟩ := ih
      refine ⟨_ :: lists, .cons (Subset.endpoints_eq_ok_iff.mpr ⟨_, hfirst, rfl⟩) hlists, ?_⟩
      rw [List.flatten_cons, hflatten]
      rfl

/-! ### Localities -/

/-- The group has the weight and the priority of the locality, and the endpoints that the membership
has for the reference, under the name of the service. -/
structure LocalityGroup.Covers (group : LocalityGroup) (locality : Locality) (ref : ServiceRef)
    (membership : Membership) : Prop where
  subZone : group.subZone = ref.name
  weight : group.weight = locality.weight
  priority : group.priority = locality.priority
  endpoints : ∃ numbers, List.Forall₂ ref.port.FirstIn membership.subsets numbers ∧
    group.endpoints = Endpoint.ofSubsets membership.subsets numbers

/-- A group lists each address of the membership once. -/
theorem LocalityGroup.Covers.length_endpoints {group : LocalityGroup} {locality : Locality}
    {ref : ServiceRef} {membership : Membership} (h : group.Covers locality ref membership) :
    group.endpoints.length = membership.addressCount := by
  obtain ⟨numbers, hnumbers, hendpoints⟩ := h.endpoints
  rw [hendpoints, ← List.length_map (·.address),
    Endpoint.map_address_ofSubsets hnumbers.length_eq, Membership.addressCount]

/-- A locality is resolved if its service has a membership with the port in every subset, and then
it has the endpoints of that membership. -/
theorem Locality.resolve_eq_ok_iff {locality : Locality} {resolved : ResolvedLocality} :
    locality.resolve index space = .ok resolved ↔ ∃ ref membership,
      locality.service = some ref ∧ index.find? (ref.key space) = some membership ∧
        resolved.service = ref.key space ∧ resolved.render.Covers locality ref membership := by
  obtain ⟨service, endpoints, weight, priority⟩ := resolved
  rw [Locality.resolve]
  cases locality.service with
  | none => simp
  | some ref =>
    simp only [Option.some.injEq, exists_and_left, exists_eq_left']
    cases index.find? (ref.key space) with
    | none => simp
    | some membership =>
      have hlists : (∃ lists, membership.subsets.mapM (Subset.endpoints (ref.key space) ref.port) =
          .ok lists ∧ lists.flatten = endpoints) ↔ _ := Subset.exists_flatten_iff
      simp only [Option.some.injEq, exists_eq_left']
      constructor
      · intro h
        split at h
        · cases h
        · next lists heq =>
          obtain ⟨rfl, rfl, rfl, rfl⟩ := ResolvedLocality.mk.inj (Except.ok.inj h)
          exact ⟨rfl, rfl, rfl, rfl, hlists.mp ⟨lists, heq, rfl⟩⟩
      · rintro ⟨rfl, -, rfl, rfl, hendpoints⟩
        obtain ⟨lists, heq, rfl⟩ := hlists.mpr hendpoints
        rw [heq]

/-! ### Endpoints as they are sent -/

/-- The protocols that a socket address can have. -/
inductive Transport where
  | tcp
  | udp
deriving DecidableEq, Repr

/-- An address as the messages of endpoints hold it. -/
structure SocketAddress where
  transport : Transport := .tcp
  address : String := ""
  port : Nat := 0
deriving DecidableEq, Repr

/-- The address of an endpoint, which is one over TCP. -/
def Endpoint.overTcp (endpoint : Endpoint) : SocketAddress where
  transport := .tcp
  address := endpoint.address
  port := endpoint.port.toNat

namespace SocketAddress

/-- Puts the value of one field into an address. The number of TCP is zero and that of UDP one. -/
def merge (socket : SocketAddress) (field : RawField) : SocketAddress :=
  match field with
  | ⟨1, .varint n⟩ => { socket with transport := if n = 1 then .udp else .tcp }
  | ⟨2, .bytes b⟩ => { socket with address := (textOfBytes? b).getD "" }
  | ⟨3, .varint n⟩ => { socket with port := n }
  | _ => socket

/-- Puts in what is merged from the message under number one. -/
def mergeWithin (merge : SocketAddress → RawField → SocketAddress) (socket : SocketAddress)
    (field : RawField) : SocketAddress :=
  match field with
  | ⟨1, .bytes b⟩ => mergeNested merge socket b
  | _ => socket

/-- The address that the bytes of an endpoint hold: three messages lie around it, each of which has
the next one under number one. -/
def ofEndpoint (bytes : Bytes) : SocketAddress :=
  mergeNested (mergeWithin (mergeWithin (mergeWithin merge))) {} bytes

theorem mergeWithin_message {merge : SocketAddress → RawField → SocketAddress}
    {socket : SocketAddress} {fields : List MessageField} (h : ∀ f ∈ fields, f.WellFormed) :
    mergeWritten (mergeWithin merge) socket [message 1 fields] = mergeWritten merge socket fields :=
  mergeNested_encodeFields h

end SocketAddress

/-- The address in a field of a group, if it is one of those that hold endpoints. -/
def SocketAddress.ofField? (field : RawField) : Option SocketAddress :=
  match field with
  | ⟨2, .bytes b⟩ => some (ofEndpoint b)
  | _ => none

/-- The socket addresses that the bytes of a group hold, in order. -/
def LocalityGroup.sockets (bytes : Bytes) : List SocketAddress :=
  ((decodeFields? 98 bytes).getD []).filterMap SocketAddress.ofField?

/-- An endpoint is sent as a socket address over TCP. -/
theorem Endpoint.ofEndpoint_encodeFields (endpoint : Endpoint) :
    SocketAddress.ofEndpoint (encodeFields endpoint.fields) = endpoint.overTcp := by
  let socket := text 2 endpoint.address ++ [⟨3, .varint endpoint.port.toNat⟩]
  have hsocket : ∀ f ∈ socket, f.WellFormed :=
    faithful_socket.wellFormed (by decide) (endpoint.address, endpoint.port)
  have haround : ∀ fields, ∀ f ∈ [message 1 fields], f.WellFormed := by
    intro fields f hf
    obtain rfl := List.mem_singleton.mp hf
    exact ⟨Nat.one_pos, Nat.one_lt_two_pow (by decide), fun _ heq => Value.noConfusion heq⟩
  -- nothing is written under the number of the protocol, which leaves it at TCP
  have hread : mergeWritten SocketAddress.merge {} socket = endpoint.overTcp := by
    rw [mergeWritten_append, mergeWritten_text rfl]
    simp [mergeWritten, SocketAddress.merge, MessageField.raw, Value.raw, Endpoint.overTcp]
  change SocketAddress.ofEndpoint (encodeFields [message 1 [message 1 [message 1 socket]]]) = _
  rw [SocketAddress.ofEndpoint, mergeNested_encodeFields (haround _),
    SocketAddress.mergeWithin_message (haround _), SocketAddress.mergeWithin_message (haround _),
    SocketAddress.mergeWithin_message hsocket, hread]

/-- The endpoints of a group are sent as socket addresses over TCP. -/
theorem LocalityGroup.sockets_encodeFields (group : LocalityGroup) :
    sockets (encodeFields group.fields) = group.endpoints.map Endpoint.overTcp := by
  let found (fields : List MessageField) :=
    (fields.map MessageField.raw).filterMap SocketAddress.ofField?
  have hread : decodeFields? 98 (encodeFields group.fields) = _ :=
    decodeFields?_encodeFields (by decide) (LocalityGroup.faithful.wellFormed (by decide) group)
  have hsplit : ∀ fields others, found (fields ++ others) = found fields ++ found others :=
    fun fields others => by simp only [found, List.map_append, List.filterMap_append]
  have hendpoints : found (group.endpoints.map fun endpoint => message 2 endpoint.fields) =
      group.endpoints.map Endpoint.overTcp := by
    simp only [found, List.filterMap_map]
    rw [← congrFun List.filterMap_eq_map group.endpoints]
    exact List.filterMap_congr fun endpoint _ =>
      congrArg some (Endpoint.ofEndpoint_encodeFields endpoint)
  -- the other fields of a group have other numbers, and the priority may be left out
  have hpriority : found (number 5 group.priority.toNat) = [] := by
    rw [number]
    split <;> rfl
  rw [sockets, hread, Option.getD_some]
  change found (_ :: _ ++ _ ++ _) = _
  rw [hsplit, hpriority, hsplit, ← List.singleton_append, hsplit, hendpoints, List.append_nil]
  exact List.append_nil _

/-! ### Load assignments -/

/-- Each locality of a cluster that has endpoints is resolved, in order. -/
theorem ClusterSpec.forall₂_of_resolve {cluster : ClusterSpec} {localities : List ResolvedLocality}
    (h : cluster.resolve index space = .ok localities) :
    List.Forall₂ (fun locality resolved => locality.resolve index space = .ok resolved)
      cluster.localities localities := by
  rw [ClusterSpec.resolve] at h
  split_ifs at h
  refine (mapM_eq_ok_iff.mp h).imp fun locality resolved hlocality => ?_
  rw [ClusterSpec.resolveLocality] at hlocality
  split at hlocality
  · next heq => exact heq.trans hlocality
  · cases hlocality

/-- A load assignment has a group for each locality of its cluster, in order. A group has the weight
and the priority of its locality and the name of its service. Its endpoints are the addresses of the
service's subsets, each with the number of the first port of its subset that the locality means, as
many as the membership has addresses, and they are sent as socket addresses over TCP. There is an
assignment just when the cluster is acceptable. So there is none where some subset of some
locality's service lacks the port, be it a subset without addresses. -/
theorem LoadAssignment.lists_live_endpoints (index : MembershipIndex) (space name : String)
    (cluster : ClusterSpec) :
    (∀ assignment, ofCluster index space name cluster = .ok assignment →
      assignment.clusterName = name ∧
      List.Forall₂ (fun locality group => ∃ ref membership, locality.service = some ref ∧
          index.find? ⟨ref.space.getD space, ref.name⟩ = some membership ∧
          group.Covers locality ref membership ∧
          group.endpoints.length = membership.addressCount ∧
          LocalityGroup.sockets (encodeFields group.fields) =
            group.endpoints.map Endpoint.overTcp)
        cluster.localities assignment.localities) ∧
    ((∃ assignment, ofCluster index space name cluster = .ok assignment) ↔
      cluster.Acceptable index space) ∧
    ∀ locality ∈ cluster.localities, ∀ ref, locality.service = some ref →
      ∀ membership, index.find? ⟨ref.space.getD space, ref.name⟩ = some membership →
        (∃ subset ∈ membership.subsets, ¬ ref.port.FoundIn subset) →
          ∃ fault, ofCluster index space name cluster = .error fault := by
  refine ⟨fun assignment h => ⟨clusterName_of_ofCluster h, ?groups⟩, exists_ofCluster_iff, ?lacking⟩
  case groups =>
    rw [ofCluster] at h
    split at h
    · next localities hresolve =>
      obtain rfl := Except.ok.inj h
      rw [List.forall₂_map_right_iff]
      refine (ClusterSpec.forall₂_of_resolve hresolve).imp fun locality resolved hlocality => ?_
      obtain ⟨ref, membership, hservice, hfind, -, hcovers⟩ :=
        Locality.resolve_eq_ok_iff.mp hlocality
      exact ⟨ref, membership, hservice, hfind, hcovers, hcovers.length_endpoints,
        LocalityGroup.sockets_encodeFields _⟩
    · cases h
  case lacking =>
    rintro locality hlocality ref hservice membership hfind ⟨subset, hsubset, hlacking⟩
    cases hmade : ofCluster index space name cluster with
    | error fault => exact ⟨fault, rfl⟩
    | ok assignment =>
      -- an assignment would mean that each subset of this service has the port
      have hacceptable := exists_ofCluster_iff.mp ⟨assignment, hmade⟩
      obtain ⟨ref', hservice', membership', hfind', hfound⟩ :=
        hacceptable.localities locality hlocality
      obtain rfl := Option.some.inj (hservice.symm.trans hservice')
      obtain rfl := Option.some.inj (hfind.symm.trans hfind')
      exact absurd (hfound subset hsubset) hlacking

/-- The first service has two ports of one name, and a subset without addresses that has the port
under another number. Without the port in that subset there is no assignment. -/
theorem LoadAssignment.lists_live_endpoints_of_two_services :
    let cluster : ClusterSpec := {
      name := "c"
      localities := [
        { weight := 3, service := some { name := "s", port := .named "http" } },
        { priority := 1
          service := some { name := "s", space := some "other", port := .numbered 80 } }] }
    let own (idle : List MembershipPort) : Membership := {
      name := "s", space := "team"
      subsets := [
        { addresses := ["10.0.0.2", "10.0.0.1"]
          ports := [{ number := 80 }, { name := some "http", number := 8080 },
            { name := some "http", number := 9090 }] },
        { ports := idle },
        { addresses := ["10.0.0.2"], ports := [{ name := some "http", number := 8081 }] }] }
    let theirs : Membership := {
      name := "s", space := "other"
      subsets := [{ addresses := ["10.0.0.3"], ports := [{ number := 80 }] }] }
    let index := MembershipIndex.ofList [own [{ name := some "http", number := 1 }], theirs]
    let lacking := MembershipIndex.ofList [own [{ number := 8080 }], theirs]
    (∃ first second,
      ofCluster index "team" "n" cluster =
        .ok { clusterName := "n", localities := [first, second] } ∧
      first.weight = 3 ∧ second.priority = 1 ∧
      first.endpoints = [⟨"10.0.0.2", 8080⟩, ⟨"10.0.0.1", 8080⟩, ⟨"10.0.0.2", 8081⟩] ∧
      LocalityGroup.sockets (encodeFields second.fields) = [⟨.tcp, "10.0.0.3", 80⟩]) ∧
    ∃ fault, ofCluster lacking "team" "n" cluster = .error fault := by
  intro cluster own theirs index lacking
  have hcontiguous : cluster.contiguous = true := by
    have hsmall : ∀ locality ∈ cluster.localities, locality.priority ≤ 1 := by decide
    refine ClusterSpec.contiguous_iff.mpr fun locality hlocality smaller hlt => ?_
    have hone : smaller < 1 := UInt32.lt_of_lt_of_le hlt (hsmall locality hlocality)
    exact ⟨_, List.mem_cons_self, (UInt32.lt_one_iff.mp hone).symm⟩
  let first : LocalityGroup := {
    subZone := "s", weight := 3, priority := 0
    endpoints := [⟨"10.0.0.2", 8080⟩, ⟨"10.0.0.1", 8080⟩, ⟨"10.0.0.2", 8081⟩] }
  let second : LocalityGroup := {
    subZone := "s", weight := 1, priority := 1, endpoints := [⟨"10.0.0.3", 80⟩] }
  have hmade : ofCluster index "team" "n" cluster =
      .ok { clusterName := "n", localities := [first, second] } := by
    rw [ofCluster, ClusterSpec.resolve, hcontiguous]
    decide +kernel
  constructor
  · obtain ⟨-, _ | ⟨-, _ | ⟨hsecond, -⟩⟩⟩ :=
      (lists_live_endpoints index "team" "n" cluster).1 _ hmade
    obtain ⟨_, _, _, _, _, -, hsockets⟩ := hsecond
    exact ⟨first, second, hmade, rfl, rfl, rfl, hsockets⟩
  · exact (lists_live_endpoints lacking "team" "n" cluster).2.2 _ List.mem_cons_self _ rfl
      (own [{ number := 8080 }]) (by decide) ⟨{ ports := [{ number := 8080 }] }, by decide,
        by simp [PortRef.FoundIn]⟩

end TrafficPlane
