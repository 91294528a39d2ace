import TrafficPlane.Resource.Encoding

/-!
# Connection managers

An API listener carries its connection manager as bytes. The manager names the route configuration
of the listener; it is written when a listener is generated and read again when a snapshot is
checked.

## Main definitions

* `ConnectionManager`: the parts of a manager that count here
* `ConnectionManager.fields`: the manager as it is written
* `ConnectionManager.decode?`: the manager that some bytes hold
* `Listener.routeConfigNameBy`: the route configuration that a listener asks for, if its manager is
  read in a given way
* `Listener.routeConfigName`: the route configuration that a listener asks for
-/

namespace TrafficPlane

open Wire

/-- A reference to a route configuration that is fetched. -/
structure RouteDiscovery where
  source : Option ConfigSource := none
  routeConfigName : String := ""
deriving DecidableEq, Repr, Inhabited

/-- Where a manager has its routes from. -/
inductive RouteSource where
  | discovery (reference : RouteDiscovery)
  /-- The routes are part of the manager. -/
  | inlined
  /-- The routes are chosen by a key of the request. -/
  | scoped
deriving DecidableEq, Repr

/-- A filter that requests pass through. -/
structure HttpFilter where
  name : String := ""
  config : Option Packed := none
deriving DecidableEq, Repr, Inhabited

/-- Options of the protocol. -/
structure ProtocolOptions where
  maxStream : Option TimeSpan := none
deriving DecidableEq, Repr, Inhabited

/-- A connection manager. -/
structure ConnectionManager where
  routes : Option RouteSource := none
  filters : List HttpFilter := []
  options : Option ProtocolOptions := none
deriving DecidableEq, Repr, Inhabited

/-- The fields of a reference to a route configuration. -/
def RouteDiscovery.fields (reference : RouteDiscovery) : List MessageField :=
  optional 1 (reference.source.map ConfigSource.fields) ++ text 2 reference.routeConfigName

/-- The field of where routes come from. -/
def RouteSource.field : RouteSource → MessageField
  | .discovery reference => message 3 reference.fields
  | .inlined => message 4 []
  | .scoped => message 31 []

/-- The fields of a filter. -/
def HttpFilter.fields (filter : HttpFilter) : List MessageField :=
  text 1 filter.name ++ optional 4 (filter.config.map Packed.fields)

/-- The fields of protocol options. -/
def ProtocolOptions.fields (options : ProtocolOptions) : List MessageField :=
  optional 4 (options.maxStream.map TimeSpan.fields)

/-- The fields of a manager. -/
def ConnectionManager.fields (manager : ConnectionManager) : List MessageField :=
  (manager.routes.map RouteSource.field).toList ++
    manager.filters.map (fun filter => message 5 filter.fields) ++
    optional 35 (manager.options.map ProtocolOptions.fields)

/-- How the value of a field has to be formed. -/
inductive Form where
  | number
  | text
  | bytes
  /-- A message whose fields, as far as they are known, have these forms. -/
  | message (fields : List (Nat × Form))

namespace Form

/-- A message that has no bearing here. It is looked into only as far as that it is made of fields. -/
def opaqueMessage : Form := message []

/-- A truth value or a number that is a message. -/
def wrapped : Form := message [(1, number)]

/-- A span of time. -/
def span : Form := message [(1, number), (2, number)]

/-- A source of resources. -/
def source : Form :=
  message [(1, text), (2, opaqueMessage), (3, opaqueMessage), (4, span), (5, opaqueMessage),
    (6, number), (7, opaqueMessage), (8, opaqueMessage)]

/-- The form of a field with a known number. Nested messages are at most as deep as the first
argument says. -/
def accepts (depth : Nat) (form : Form) (value : RawValue) : Bool :=
  match form, value, depth with
  | number, .varint _, _ => true
  | text, .bytes b, _ => (textOfBytes? b).isSome
  | bytes, .bytes _, _ => true
  | message known, .bytes b, depth + 1 =>
    match decodeFields? (depth + 1) b with
    | some fields => fields.all fun field =>
        match known.lookup field.number with
        | some form => accepts depth form field.value
        | none => true
    | none => false
  | _, _, _ => false

end Form

/-- The fields of a manager that are known, with their forms. -/
def ConnectionManager.forms : List (Nat × Form) :=
  let packed : Form := .message [(1, .text), (2, .bytes)]
  [(1, .number), (2, .text),
    (3, .message [(1, .source), (2, .text)]),
    (4, .opaqueMessage),
    (5, .message [(1, .text), (4, packed), (5, .opaqueMessage), (6, .number), (7, .number)]),
    (6, .wrapped), (7, .opaqueMessage), (8, .opaqueMessage), (9, .opaqueMessage), (10, .text),
    (12, .span), (13, .opaqueMessage), (14, .wrapped), (15, .wrapped), (16, .number),
    (17, .opaqueMessage), (18, .number), (19, .number), (20, .number), (21, .number), (22, .text),
    (23, .opaqueMessage), (24, .span), (25, .opaqueMessage), (26, .span), (28, .span),
    (29, .wrapped), (30, .wrapped), (31, .opaqueMessage), (32, .number), (33, .number),
    (34, .number),
    (35, .message [(1, .span), (2, .wrapped), (3, .span), (4, .span), (5, .number), (6, .wrapped),
      (7, .wrapped)]),
    (36, .opaqueMessage), (37, .number), (38, .opaqueMessage), (39, .number), (40, .wrapped),
    (41, .span), (42, .number), (43, .opaqueMessage), (44, .opaqueMessage), (45, .number),
    (46, .opaqueMessage), (47, .number), (48, .opaqueMessage), (49, .opaqueMessage),
    (50, .opaqueMessage), (51, .number), (52, .opaqueMessage), (53, .wrapped),
    (54, .span), (55, .number), (56, .opaqueMessage), (57, .number)]

/-- The fields of some bytes that have a known form. -/
def knownFields? (depth : Nat) (known : List (Nat × Form)) (bytes : Bytes) :
    Option (List RawField) :=
  match decodeFields? depth bytes with
  | some fields =>
    if fields.all fun field =>
        match known.lookup field.number with
        | some form => form.accepts (depth - 1) field.value
        | none => true
    then some (fields.filter fun field => (known.lookup field.number).isSome)
    else none
  | none => none

/-- A number of sixty-four bits with a sign, from its remainder. -/
def int64OfVarint (n : Nat) : Int64 := .ofNat n

/-- A number of thirty-two bits with a sign, from its remainder. -/
def int32OfVarint (n : Nat) : Int32 := .ofNat n

/-- Puts the value of one field into a span. -/
def TimeSpan.merge (span : TimeSpan) (field : RawField) : TimeSpan :=
  match field with
  | ⟨1, .varint n⟩ => { span with seconds := int64OfVarint n }
  | ⟨2, .varint n⟩ => { span with nanos := int32OfVarint n }
  | _ => span

/-- Puts the value of one field into a packed message. -/
def Packed.merge (packed : Packed) (field : RawField) : Packed :=
  match field with
  | ⟨1, .bytes b⟩ => { packed with typeUrl := (textOfBytes? b).getD "" }
  | ⟨2, .bytes b⟩ => { packed with value := b }
  | _ => packed

/-- Puts the value of one field into a source. Of several alternatives the last one counts. -/
def ConfigSource.merge (source : ConfigSource) (field : RawField) : ConfigSource :=
  match field with
  | ⟨3, .bytes _⟩ => { source with aggregated := true }
  | ⟨6, .varint n⟩ => { source with apiVersion := int32OfVarint n }
  | ⟨n, _⟩ => if [1, 2, 5, 8].contains n then { source with aggregated := false } else source

/-- Puts the fields of a nested message into what is there. -/
def mergeNested {α : Type} (merge : α → RawField → α) (start : α) (bytes : Bytes) : α :=
  ((decodeFields? 98 bytes).getD []).foldl merge start

/-- Puts the value of one field into a reference to a route configuration. -/
def RouteDiscovery.merge (reference : RouteDiscovery) (field : RawField) : RouteDiscovery :=
  match field with
  | ⟨1, .bytes b⟩ =>
    { reference with
      source := some (mergeNested ConfigSource.merge (reference.source.getD {}) b) }
  | ⟨2, .bytes b⟩ => { reference with routeConfigName := (textOfBytes? b).getD "" }
  | _ => reference

/-- Puts the value of one field into a filter. -/
def HttpFilter.merge (filter : HttpFilter) (field : RawField) : HttpFilter :=
  match field with
  | ⟨1, .bytes b⟩ => { filter with name := (textOfBytes? b).getD "" }
  | ⟨4, .bytes b⟩ =>
    { filter with config := some (mergeNested Packed.merge (filter.config.getD {}) b) }
  | ⟨5, .bytes _⟩ => { filter with config := none }
  | _ => filter

/-- Puts the value of one field into protocol options. -/
def ProtocolOptions.merge (options : ProtocolOptions) (field : RawField) : ProtocolOptions :=
  match field with
  | ⟨4, .bytes b⟩ =>
    { options with
      maxStream := some (mergeNested TimeSpan.merge (options.maxStream.getD default) b) }
  | _ => options

namespace ConnectionManager

/-- Puts the value of one field into a manager. Of several sources of routes the last one counts,
and one that comes again adds to itself. -/
def merge (manager : ConnectionManager) (field : RawField) : ConnectionManager :=
  match field with
  | ⟨3, .bytes b⟩ =>
    let start := match manager.routes with
      | some (.discovery reference) => reference
      | _ => {}
    { manager with routes := some (.discovery (mergeNested RouteDiscovery.merge start b)) }
  | ⟨4, .bytes _⟩ => { manager with routes := some .inlined }
  | ⟨5, .bytes b⟩ =>
    { manager with filters := manager.filters ++ [mergeNested HttpFilter.merge {} b] }
  | ⟨31, .bytes _⟩ => { manager with routes := some .scoped }
  | ⟨35, .bytes b⟩ =>
    { manager with
      options := some (mergeNested ProtocolOptions.merge (manager.options.getD {}) b) }
  | _ => manager

/-- The manager that some bytes hold, if all their fields are well formed. Nested messages that have
no bearing on it need to be made of fields only. -/
def decode? (bytes : Bytes) : Option ConnectionManager :=
  (knownFields? 100 forms bytes).map (·.foldl merge {})

/-- The URL of the type of managers. -/
def typeUrl : String :=
  "type.googleapis.com/envoy.extensions.filters.network.http_connection_manager.v3." ++
    "HttpConnectionManager"

end ConnectionManager

/-- The name of the route configuration that a listener asks for, if managers are read by `decode`. A
listener without a manager, or whose manager has its routes from elsewhere, asks for none. -/
def Listener.routeConfigNameBy (decode : Bytes → Option ConnectionManager) (listener : Listener) :
    Except InternalCause (Option String) :=
  match listener.api.bind (·.manager) with
  | none => .ok none
  | some packed =>
    if packed.typeUrl ≠ ConnectionManager.typeUrl then .ok none
    else match decode packed.value with
      | none => .error (.undecodableManager listener.name)
      | some manager =>
        match manager.routes with
        | some (.discovery reference) => .ok (some reference.routeConfigName)
        | _ => .ok none

/-- The name of the route configuration that a listener asks for. -/
def Listener.routeConfigName (listener : Listener) : Except InternalCause (Option String) :=
  listener.routeConfigNameBy ConnectionManager.decode?

end TrafficPlane
