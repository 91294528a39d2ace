import TrafficPlane.Spec.Membership

/-!
# Declarations in memory

Routing specs and memberships by name, for programs that hold their declarations themselves.

## Main definitions

* `MemorySource`: the specs and memberships at hand
* `MemorySource.listSpecs`, `MemorySource.listMemberships`: all of them in ascending order of names
-/

namespace TrafficPlane

/-- The specs and memberships at hand. -/
structure MemorySource where
  specs : KeyMap RoutingSpec := .empty
  memberships : KeyMap Membership := .empty

namespace MemorySource

/-- Puts a spec in the place of the one with its name. -/
def upsertSpec (source : MemorySource) (spec : RoutingSpec) : MemorySource :=
  { source with specs := source.specs.insert spec.key spec }

/-- Puts a membership in the place of the one with its name. -/
def upsertMembership (source : MemorySource) (membership : Membership) : MemorySource :=
  { source with memberships := source.memberships.insert membership.key membership }

/-- Takes out the spec with a name. -/
def removeSpec (source : MemorySource) (key : QualifiedName) : Option RoutingSpec × MemorySource :=
  (source.specs.find? key, { source with specs := source.specs.erase key })

/-- Takes out the membership with a name. -/
def removeMembership (source : MemorySource) (key : QualifiedName) :
    Option Membership × MemorySource :=
  (source.memberships.find? key, { source with memberships := source.memberships.erase key })

/-- All specs in ascending order of their names. -/
def listSpecs (source : MemorySource) : List RoutingSpec :=
  source.specs.values

/-- All memberships in ascending order of their names. -/
def listMemberships (source : MemorySource) : List Membership :=
  source.memberships.values

end MemorySource

end TrafficPlane
