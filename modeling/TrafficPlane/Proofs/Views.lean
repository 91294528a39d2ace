import Mathlib.Algebra.GroupWithZero.Nat
import Mathlib.Data.List.Forall2
import TrafficPlane.Proofs.KeyMap
import TrafficPlane.Snapshot.Basic

/-!
# Views of a snapshot

A snapshot shows its messages encoded, by their names, and as a number. Each of these views goes
over the bundles for itself, and the encoded one is made once and kept. All of them show the same
messages, in the order of the specs' names and, within a bundle, of declaration.

## Main definitions

* `Bundle.Message`: a message of one of the four types
* `Snapshot.Place`, `Snapshot.places`: where the messages of a type stand
* `Snapshot.messageAt?`: the message at a place

## Main results

* `Snapshot.mem_places_iff`, `Snapshot.places_ordered`: the places are all those with a message,
  each once and in order
* `Snapshot.map_messageAt?_places`: place by place the messages are those of the bundles
* `Snapshot.views_agree`: every view shows the messages at those places
-/

namespace TrafficPlane

open Wire

/-! ### Types and their URLs -/

namespace ResourceType

theorem mem_all (type : ResourceType) : type ∈ all := by
  cases type <;> decide

theorem ofUrl?_url (type : ResourceType) : ofUrl? type.url = some type := by
  cases type <;> decide

theorem ofUrl?_eq_none_iff {url : String} :
    ofUrl? url = none ↔ ∀ type : ResourceType, type.url ≠ url := by
  simp [ofUrl?, List.find?_eq_none, mem_all]

end ResourceType

/-! ### Messages -/

namespace Bundle

/-- A message of a bundle, which is of one of the four types. -/
inductive Message where
  | listener (listener : Listener)
  | routeConfiguration (config : RouteConfiguration)
  | cluster (cluster : Cluster)
  | loadAssignment (assignment : LoadAssignment)

namespace Message

/-- The type of the message. -/
def type : Message → ResourceType
  | .listener _ => .listener
  | .routeConfiguration _ => .routeConfiguration
  | .cluster _ => .cluster
  | .loadAssignment _ => .loadAssignment

/-- The name of the message, which for a load assignment is that of its cluster. -/
def name : Message → String
  | .listener message => message.name
  | .routeConfiguration message => message.name
  | .cluster message => message.name
  | .loadAssignment message => message.clusterName

/-- The fields that the message is written as. -/
def fields : Message → List MessageField
  | .listener message => message.fields
  | .routeConfiguration message => message.fields
  | .cluster message => message.fields
  | .loadAssignment message => message.fields

end Message

/-- The messages of a type, in the order of their declaration. -/
def messages (bundle : Bundle) : ResourceType → List Message
  | .listener => [.listener bundle.listener]
  | .routeConfiguration => [.routeConfiguration bundle.routeConfiguration]
  | .cluster => bundle.clusters.map .cluster
  | .loadAssignment => bundle.loadAssignments.map .loadAssignment

variable (bundle : Bundle) (type : ResourceType)

theorem type_of_mem_messages {message : Message} (h : message ∈ bundle.messages type) :
    message.type = type := by
  cases type with
  | listener | routeConfiguration =>
    rw [List.mem_singleton.mp h]
    rfl
  | cluster | loadAssignment =>
    obtain ⟨_, -, rfl⟩ := List.mem_map.mp h
    rfl

theorem resources_eq_map : bundle.resources type =
    (bundle.messages type).map fun message => .ofFields type message.name message.fields := by
  cases type <;> simp [resources, messages, Message.name, Message.fields]

theorem resourceNames_eq_map :
    bundle.resourceNames type = (bundle.messages type).map (·.name) := by
  cases type <;> simp [resourceNames, messages, Message.name]

theorem resourceCount_eq_sum : bundle.resourceCount =
    (ResourceType.all.map fun type => (bundle.messages type).length).sum := by
  simp only [resourceCount, ResourceType.all, messages, List.map_cons, List.map_nil, List.sum_cons,
    List.sum_nil, List.length_map, List.length_singleton]
  omega

end Bundle

/-- The resource has the name and the type of the message, and its bytes. -/
structure Resource.Encodes (resource : Resource) (message : Bundle.Message) : Prop where
  name : resource.name = message.name
  typeUrl : resource.packed.typeUrl = message.type.url
  value : resource.packed.value = encodeFields message.fields

namespace Snapshot

variable (snapshot : Snapshot) (type : ResourceType)

/-! ### Places -/

/-- Where a message stands among those of its type: in the bundle under a name, behind so many
others. -/
structure Place where
  key : QualifiedName
  index : Nat

/-- Places are ordered by the names of the bundles, and within a bundle as they are declared. -/
def Place.Precedes (place other : Place) : Prop :=
  place.key < other.key ∨ place.key = other.key ∧ place.index < other.index

/-- The message of a type at a place. -/
def messageAt? (place : Place) : Option Bundle.Message :=
  (snapshot.bundle? place.key).bind fun bundle => (bundle.messages type)[place.index]?

/-- The messages of a type, bundle by bundle. -/
def messages : List Bundle.Message :=
  snapshot.bundles.values.flatMap (·.messages type)

/-- The places of the messages of a type. -/
def places : List Place :=
  snapshot.bundles.entries.flatMap fun entry =>
    (List.range (entry.2.messages type).length).map (Place.mk entry.1)

variable {snapshot type}

theorem type_of_messageAt? {place : Place} {message : Bundle.Message}
    (h : snapshot.messageAt? type place = some message) : message.type = type := by
  obtain ⟨bundle, -, hmessage⟩ := Option.bind_eq_some_iff.mp h
  exact bundle.type_of_mem_messages type (List.mem_of_getElem? hmessage)

/-- The places are those with a message. -/
theorem mem_places_iff {place : Place} :
    place ∈ snapshot.places type ↔ (snapshot.messageAt? type place).isSome := by
  obtain ⟨key, index⟩ := place
  simp only [places, messageAt?, bundle?, List.mem_flatMap, List.mem_map, List.mem_range,
    Place.mk.injEq, Option.isSome_bind, Option.any_eq_true, isSome_getElem?]
  constructor
  · rintro ⟨⟨key, bundle⟩, hentry, index, hindex, rfl, rfl⟩
    exact ⟨bundle, KeyMap.mem_entries_iff.mp hentry, hindex⟩
  · rintro ⟨bundle, hfind, hindex⟩
    exact ⟨(key, bundle), KeyMap.mem_entries_iff.mpr hfind, index, hindex, rfl, rfl⟩

/-- The places come in order, and so each of them once. -/
theorem places_ordered : (snapshot.places type).Pairwise Place.Precedes := by
  rw [places, List.pairwise_flatMap]
  constructor
  · intro entry _
    exact List.pairwise_map.mpr (List.pairwise_lt_range.imp fun hlt => .inr ⟨rfl, hlt⟩)
  · refine snapshot.bundles.ascending.imp fun {first second} hlt place hplace other hother => ?_
    obtain ⟨_, -, rfl⟩ := List.mem_map.mp hplace
    obtain ⟨_, -, rfl⟩ := List.mem_map.mp hother
    exact .inl hlt

variable (snapshot type)

/-- Place by place, the messages are those of the bundles. -/
theorem map_messageAt?_places : (snapshot.places type).map (snapshot.messageAt? type) =
    (snapshot.messages type).map some := by
  rw [places, messages, KeyMap.values, List.flatMap_map, List.map_flatMap, List.map_flatMap]
  -- the places in one bundle are the indices of its messages
  refine List.flatMap_congr fun entry hentry => ?_
  have hfind : snapshot.bundles.find? entry.1 = some entry.2 := KeyMap.mem_entries_iff.mp hentry
  refine List.ext_getElem (by simp) fun index hindex _ => ?_
  have hrange : index < (entry.2.messages type).length := by simpa using hindex
  simp [messageAt?, bundle?, hfind, hrange]

/-! ### Views -/

/-- What was encoded at once is what is encoded when it is asked for. -/
theorem lookup_encoded (url : String) :
    (snapshot.encoded.lookup url).getD [] = snapshot.resourcesByUrl url := by
  have hlookup : ∀ types : List ResourceType,
      (types.map fun type => (type.url, snapshot.resources type)).lookup url =
        (types.find? (·.url == url)).map snapshot.resources := by
    intro types
    induction types with
    | nil => rfl
    | cons type rest ih =>
      rw [List.map_cons, List.lookup_cons, List.find?_cons, BEq.comm]
      cases type.url == url with
      | true => rfl
      | false => exact ih
  rw [encoded, hlookup, resourcesByUrl, ResourceType.ofUrl?]

theorem resources_eq_map : snapshot.resources type =
    (snapshot.messages type).map fun message => .ofFields type message.name message.fields := by
  simp only [resources, messages, Bundle.resources_eq_map, List.map_flatMap]

theorem resourceNames_eq_map :
    snapshot.resourceNames type = (snapshot.messages type).map (·.name) := by
  simp only [resourceNames, messages, Bundle.resourceNames_eq_map, List.map_flatMap]

theorem resourceCount_eq_sum : snapshot.resourceCount =
    (ResourceType.all.map fun type => (snapshot.messages type).length).sum := by
  have hbundles : ∀ bundles : List Bundle,
      (bundles.map (·.resourceCount)).foldr (· + ·) 0 =
        (ResourceType.all.map fun type => (bundles.flatMap (·.messages type)).length).sum := by
    intro bundles
    induction bundles with
    | nil => rfl
    | cons bundle rest ih =>
      rw [List.map_cons, List.foldr_cons, ih, Bundle.resourceCount_eq_sum]
      simp only [ResourceType.all, List.map_cons, List.map_nil, List.sum_cons, List.sum_nil,
        List.flatMap_cons, List.length_append]
      omega
  exact hbundles snapshot.bundles.values

theorem resourcesByUrl_url : snapshot.resourcesByUrl type.url = snapshot.resources type := by
  rw [resourcesByUrl, ResourceType.ofUrl?_url, Option.map_some, Option.getD_some]

/-- The names of the encoded resources are those that are listed, for any URL. -/
theorem map_name_resourcesByUrl (url : String) :
    (snapshot.resourcesByUrl url).map (·.name) = snapshot.resourceNamesByUrl url := by
  rw [resourcesByUrl, resourceNamesByUrl]
  cases ResourceType.ofUrl? url with
  | none => rfl
  | some type =>
    simp only [Option.map_some, Option.getD_some, resources_eq_map, resourceNames_eq_map,
      List.map_map]
    rfl

/-- Place by place, the resources are the messages of the bundles in their encoded form. -/
theorem forall₂_places_resources : List.Forall₂ (fun place resource =>
    ∃ message, snapshot.messageAt? type place = some message ∧ message.type = type ∧
      resource.Encodes message) (snapshot.places type) (snapshot.resources type) := by
  have hmessages : List.Forall₂ (fun place message => snapshot.messageAt? type place = some message)
      (snapshot.places type) (snapshot.messages type) := by
    have heq := snapshot.map_messageAt?_places type
    rwa [← List.forall₂_eq_eq_eq, List.forall₂_map_left_iff, List.forall₂_map_right_iff] at heq
  rw [resources_eq_map, List.forall₂_map_right_iff]
  refine hmessages.imp fun place message hmessage => ?_
  have htype := type_of_messageAt? hmessage
  exact ⟨message, hmessage, htype, rfl, congrArg ResourceType.url htype.symm, rfl⟩

/-- For any bundles, the resources that are encoded for a URL are the messages of its type, at their
places in order, with their names, the URL and their bytes. The names that are listed for the URL
are those of the resources. A URL that names no type has neither resources nor names. Resources that
were encoded at once are the same, and their number over the four types is the one that is told. -/
theorem views_agree (snapshot : Snapshot) :
    (∀ url, (snapshot.resourcesByUrl url).map (·.name) = snapshot.resourceNamesByUrl url) ∧
    (∀ type : ResourceType, (snapshot.places type).Pairwise Place.Precedes ∧
      (∀ place, place ∈ snapshot.places type ↔ (snapshot.messageAt? type place).isSome) ∧
      List.Forall₂ (fun place resource => ∃ message,
        snapshot.messageAt? type place = some message ∧ message.type = type ∧
          resource.Encodes message)
        (snapshot.places type) (snapshot.resourcesByUrl type.url)) ∧
    (∀ url, (∀ type : ResourceType, type.url ≠ url) →
      snapshot.resourcesByUrl url = [] ∧ snapshot.resourceNamesByUrl url = []) ∧
    (∀ url, (snapshot.encoded.lookup url).getD [] = snapshot.resourcesByUrl url) ∧
    snapshot.resourceCount =
      (ResourceType.all.map fun type => (snapshot.resourcesByUrl type.url).length).sum := by
  refine ⟨snapshot.map_name_resourcesByUrl,
    fun type => ⟨places_ordered, fun _ => mem_places_iff, ?_⟩, fun url hurl => ?_,
    snapshot.lookup_encoded, ?_⟩
  · rw [resourcesByUrl_url]
    exact snapshot.forall₂_places_resources type
  · rw [resourcesByUrl, resourceNamesByUrl, ResourceType.ofUrl?_eq_none_iff.mpr hurl]
    exact ⟨rfl, rfl⟩
  · simp only [resourceCount_eq_sum, resourcesByUrl_url, resources_eq_map, List.length_map]

/-- Bundles need not have as many load assignments as clusters, and come in the order of their names
however they were put in. -/
theorem views_agree_of_uneven_bundles :
    let bundle (name : String) (clusters assignments : List String) : Bundle := {
      key := ⟨"s", name⟩
      listener := { name }
      routeTable := { name, virtualHost := name, domains := [], routes := [] }
      routeConfiguration := { name, virtualHosts := [], validateClusters := false }
      clusters := clusters.map fun name => { name, discovery := none }
      loadAssignments := assignments.map fun clusterName => { clusterName, localities := [] } }
    let snapshot : Snapshot := {
      version := 1
      bundles := .ofList Bundle.key [bundle "b" ["b0", "b1"] [], bundle "a" ["a0"] ["a0", "a1"]] }
    (snapshot.resourcesByUrl ResourceType.cluster.url).map (·.name) = ["a0", "b0", "b1"] ∧
      (snapshot.resourcesByUrl ResourceType.loadAssignment.url).map (·.name) = ["a0", "a1"] ∧
      snapshot.resourcesByUrl "type.googleapis.com/envoy.config.core.v3.Node" = [] ∧
      snapshot.resourceCount = 9 := by
  intro bundle snapshot
  exact ⟨((views_agree snapshot).1 _).trans (by decide +kernel),
    ((views_agree snapshot).1 _).trans (by decide +kernel),
    ((views_agree snapshot).2.2.1 _ fun type => by cases type <;> decide).1, by decide +kernel⟩

end Snapshot

end TrafficPlane
