import TrafficPlane.Spec.QualifiedName

/-!
# Names of generated resources

Every generated name starts with the escaped name and namespace of the spec that it belongs to, so
names stay the same from pass to pass and specs do not share them. The parts of a name are
separated by full stops; escaping removes them from within a part.

## Main definitions

* `ResourceName.escape`: a part without full stops
* `ResourceName.routeConfiguration`, `ResourceName.virtualHost`, `ResourceName.cluster`
-/

namespace TrafficPlane.ResourceName

/-- One character of an escaped part. The percent sign, which starts an escape, is itself
escaped. -/
def escapeChar (c : Char) : List Char :=
  if c = '%' then ['%', '2', '5'] else if c = '.' then ['%', '2', 'E'] else [c]

/-- A part of a name without full stops. -/
def escape (part : String) : String :=
  .ofList (part.toList.flatMap escapeChar)

/-- The parts that all names of a spec share. -/
def stem (spec : QualifiedName) : String :=
  "routeforge." ++ escape spec.name ++ "." ++ escape spec.space

/-- The name of a spec's route configuration. -/
def routeConfiguration (spec : QualifiedName) : String :=
  stem spec ++ ".routeconfig"

/-- The name of a spec's virtual host. -/
def virtualHost (spec : QualifiedName) : String :=
  stem spec ++ ".vhost"

/-- The name of a cluster, and of its load assignment, by the name within the spec. -/
def cluster (spec : QualifiedName) (localName : String) : String :=
  stem spec ++ "." ++ escape localName

end TrafficPlane.ResourceName
