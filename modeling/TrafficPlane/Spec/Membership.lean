import TrafficPlane.Spec.Routing
import TrafficPlane.KeyMap

/-!
# Membership

The live endpoints of services. A membership groups the addresses of one service by the ports that
they share.

## Main definitions

* `Membership`: the endpoints of one service
* `Subset.port?`: the number of the port that a reference selects
* `MembershipIndex`: memberships by namespace and service name
-/

namespace TrafficPlane

/-- A port that the addresses of a subset listen on. -/
structure MembershipPort where
  name : Option String := none
  number : UInt16
deriving DecidableEq, Repr, Inhabited

/-- Addresses that share their ports. -/
structure Subset where
  addresses : List String := []
  ports : List MembershipPort := []
deriving DecidableEq, Repr, Inhabited

/-- The endpoints of one service. -/
structure Membership where
  name : String
  space : String := defaultSpace
  subsets : List Subset := []
deriving DecidableEq, Repr, Inhabited

/-- The reference selects this port. -/
def PortRef.selects (ref : PortRef) (port : MembershipPort) : Bool :=
  match ref with
  | .named name => port.name == some name
  | .numbered number => port.number == number

/-- The number of the first port that the reference selects. -/
def Subset.port? (subset : Subset) (ref : PortRef) : Option UInt16 :=
  (subset.ports.find? ref.selects).map (·.number)

/-- The name that the membership goes by. -/
def Membership.key (membership : Membership) : QualifiedName :=
  ⟨membership.space, membership.name⟩

/-- The number of addresses over all subsets. -/
def Membership.addressCount (membership : Membership) : Nat :=
  (membership.subsets.flatMap (·.addresses)).length

/-- Memberships by namespace and service name. -/
abbrev MembershipIndex := KeyMap Membership

/-- The memberships by name. Of several with one name the last one stays. -/
def MembershipIndex.ofList (memberships : List Membership) : MembershipIndex :=
  KeyMap.ofList Membership.key memberships

end TrafficPlane
