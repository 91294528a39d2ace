import TrafficPlane.Document.Record
import TrafficPlane.Spec.Membership

/-!
# Documents of specs and memberships

How each type of declaration is written as a document: the names of its fields in the order of
their declaration, which of them must be given, and which are left out when they hold nothing.

## Main definitions

* `RoutingSpec.codec`, `Membership.codec` and their parts
* `PortRef.codec`: a port reference sets either a name or a number
-/

namespace TrafficPlane

/-- The document of a port reference, which has room for both selectors. -/
structure PortSelectors where
  name : Option String := none
  number : Option UInt16 := none
deriving DecidableEq, Repr, Inhabited

namespace PortSelectors

/-- The fields of a port reference. -/
def record : Record PortSelectors where
  start := {}
  fields := [
    .optional "name" .text (·.name) fun v r => { r with name := v },
    .optional "number" .uint16 (·.number) fun v r => { r with number := v }]

/-- The reference with the one selector that is set. -/
def toRef : PortSelectors → Except DocumentFault PortRef
  | ⟨some name, none⟩ => .ok (.named name)
  | ⟨none, some number⟩ => .ok (.numbered number)
  | ⟨some _, some _⟩ => .error .portWithTwoSelectors
  | ⟨none, none⟩ => .error .portWithoutSelector

/-- The selectors of a reference. -/
def ofRef : PortRef → PortSelectors
  | .named name => { name := some name }
  | .numbered number => { number := some number }

end PortSelectors

/-- Port references. -/
def PortRef.codec : Codec PortRef where
  read doc := PortSelectors.record.read doc >>= PortSelectors.toRef
  write ref := PortSelectors.record.write (.ofRef ref)

/-- Qualified names. -/
def QualifiedName.codec : Codec QualifiedName :=
  Record.codec {
    start := default
    fields := [
      .required "namespace" .text (·.space) fun v r => { r with space := v },
      .required "name" .text (·.name) fun v r => { r with name := v }] }

/-- Regular expressions. -/
def RegexSpec.codec : Codec RegexSpec :=
  Record.codec {
    start := { source := "" }
    fields := [
      .required "regex" .text (·.source) fun v r => { r with source := v },
      .defaulted "engine" .text (·.engine) fun v r => { r with engine := v }] }

/-- Path criteria. -/
def PathSpec.codec : Codec PathSpec :=
  Record.codec {
    start := {}
    fields := [
      .optional "prefix" .text (·.leading) fun v r => { r with leading := v },
      .optional "path" .text (·.exact) fun v r => { r with exact := v },
      .optional "regex" RegexSpec.codec (·.regex) fun v r => { r with regex := v }] }

/-- Integer ranges. -/
def IntegerRange.codec : Codec IntegerRange :=
  Record.codec {
    start := default
    fields := [
      .required "start" .int64 (·.start) fun v r => { r with start := v },
      .required "end" .int64 (·.stop) fun v r => { r with stop := v }] }

/-- Header criteria. -/
def HeaderSpec.codec : Codec HeaderSpec :=
  Record.codec {
    start := { name := "" }
    fields := [
      .required "name" .text (·.name) fun v r => { r with name := v },
      .optional "exact" .text (·.exact) fun v r => { r with exact := v },
      .optional "regex" RegexSpec.codec (·.regex) fun v r => { r with regex := v },
      .optional "range" IntegerRange.codec (·.range) fun v r => { r with range := v },
      .optional "present" .bool (·.present) fun v r => { r with present := v },
      .optional "prefix" .text (·.leading) fun v r => { r with leading := v },
      .optional "suffix" .text (·.trailing) fun v r => { r with trailing := v },
      .defaulted "invert" .bool (·.invert) fun v r => { r with invert := v }] }

/-- Parts of the traffic. -/
def FractionSpec.codec : Codec FractionSpec :=
  Record.codec {
    start := default
    fields := [
      .required "numerator" .uint32 (·.numerator) fun v r => { r with numerator := v },
      .required "denominator" .text (·.denominator) fun v r => { r with denominator := v }] }

/-- Cluster references. -/
def ClusterRef.codec : Codec ClusterRef :=
  Record.codec {
    start := { name := "" }
    fields := [
      .required "name" .text (·.name) fun v r => { r with name := v },
      .defaulted "weight" .uint32 (·.weight) fun v r => { r with weight := v }] }

/-- Routes. -/
def RouteSpec.codec : Codec RouteSpec :=
  Record.codec {
    start := {}
    fields := [
      .defaulted "path" PathSpec.codec (·.path) fun v r => { r with path := v },
      .defaulted "caseSensitive" .bool (·.caseSensitive) fun v r => { r with caseSensitive := v },
      .sparse "headers" HeaderSpec.codec (·.headers) fun v r => { r with headers := v },
      .optional "runtimeFraction" FractionSpec.codec (·.fraction) fun v r =>
        { r with fraction := v },
      .defaulted "clusters" ClusterRef.codec.list (·.clusters) fun v r => { r with clusters := v },
      .optional "maxStreamDurationMs" .uint64 (·.maxStreamMillis) fun v r =>
        { r with maxStreamMillis := v },
      .optional "grpcTimeoutHeaderMaxMs" .uint64 (·.grpcTimeoutMaxMillis) fun v r =>
        { r with grpcTimeoutMaxMillis := v }] }

/-- Service references. -/
def ServiceRef.codec : Codec ServiceRef :=
  Record.codec {
    start := default
    fields := [
      .required "name" .text (·.name) fun v r => { r with name := v },
      .optional "namespace" .text (·.space) fun v r => { r with space := v },
      .required "port" PortRef.codec (·.port) fun v r => { r with port := v }] }

/-- Localities. -/
def Locality.codec : Codec Locality :=
  Record.codec {
    start := {}
    fields := [
      .defaulted "weight" .uint32 (·.weight) fun v r => { r with weight := v },
      .defaulted "priority" .uint32 (·.priority) fun v r => { r with priority := v },
      .optional "service" ServiceRef.codec (·.service) fun v r => { r with service := v }] }

/-- Clusters. -/
def ClusterSpec.codec : Codec ClusterSpec :=
  Record.codec {
    start := { name := "" }
    fields := [
      .required "name" .text (·.name) fun v r => { r with name := v },
      .defaulted "localities" Locality.codec.list (·.localities) fun v r =>
        { r with localities := v }] }

/-- Routing specs. -/
def RoutingSpec.codec : Codec RoutingSpec :=
  Record.codec {
    start := { name := "", listener := "" }
    fields := [
      .required "name" .text (·.name) fun v r => { r with name := v },
      .defaulted "namespace" .text (·.space) fun v r => { r with space := v },
      .required "listener" .text (·.listener) fun v r => { r with listener := v },
      .optional "maxStreamDurationMs" .uint64 (·.maxStreamMillis) fun v r =>
        { r with maxStreamMillis := v },
      .defaulted "routes" RouteSpec.codec.list (·.routes) fun v r => { r with routes := v },
      .defaulted "clusters" ClusterSpec.codec.list (·.clusters) fun v r =>
        { r with clusters := v }] }

/-- Ports of a subset. -/
def MembershipPort.codec : Codec MembershipPort :=
  Record.codec {
    start := default
    fields := [
      .optional "name" .text (·.name) fun v r => { r with name := v },
      .required "port" .uint16 (·.number) fun v r => { r with number := v }] }

/-- Subsets. -/
def Subset.codec : Codec Subset :=
  Record.codec {
    start := {}
    fields := [
      .defaulted "addresses" Codec.text.list (·.addresses) fun v r => { r with addresses := v },
      .defaulted "ports" MembershipPort.codec.list (·.ports) fun v r => { r with ports := v }] }

/-- Memberships. -/
def Membership.codec : Codec Membership :=
  Record.codec {
    start := { name := "" }
    fields := [
      .required "name" .text (·.name) fun v r => { r with name := v },
      .defaulted "namespace" .text (·.space) fun v r => { r with space := v },
      .defaulted "subsets" Subset.codec.list (·.subsets) fun v r => { r with subsets := v }] }

end TrafficPlane
