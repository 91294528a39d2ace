import TrafficPlane.CommandLine.Arguments
import TrafficPlane.CommandLine.Stamp
import TrafficPlane.Document.Json
import TrafficPlane.Pass.Run
import TrafficPlane.Settings
import TrafficPlane.Source.Directory
import TrafficPlane.Spec.Document

/-!
# Rendering a pass

A command runs one pass over directories, from nothing, and prints what was published.

## Main definitions

* `Rendering`: the published snapshot and the report on it
* `render`: runs the pass
* `Rendering.doc`, `Rendering.summary`, `Rendering.failures`: what is printed of it
-/

namespace TrafficPlane.CommandLine

/-- The published snapshot and the report on it. -/
structure Rendering where
  snapshot : Snapshot
  report : Report

/-- The one namespace whose specs count: the one that the command names, or else that of the
settings. -/
def InputOptions.scope (input : InputOptions) (settings : EngineSettings) : Option String :=
  input.space <|> settings.scope

/-- The directory of the memberships: that of the specs unless another one is named. -/
def InputOptions.membershipPath (input : InputOptions) : String :=
  input.memberships.getD input.specs

/-- Runs one pass over the directories at some paths, on a store of its own. -/
def render (directoryAt : String → Directory) (input : InputOptions) (settings : EngineSettings) :
    Except Fault Rendering :=
  let result := ({} : Plane).runPass {
    specs := (directoryAt input.specs).specs (input.scope settings)
    memberships := (directoryAt input.membershipPath).memberships }
  (fun report => { snapshot := result.plane.store.live, report }) <$> result.outcome

/-- The labels of the types, in their own order. -/
def labels : List (String × ResourceType) :=
  [("clusters", .cluster), ("listeners", .listener), ("loadAssignments", .loadAssignment),
    ("routeConfigurations", .routeConfiguration)]

namespace Rendering

/-- The names of the resources by the labels of their types. -/
def resources (rendering : Rendering) : List (String × List String) :=
  labels.map fun (label, type) => (label, rendering.snapshot.resourceNames type)

/-- A map with texts as keys. -/
def record (fields : List (String × Doc)) : Doc :=
  .map (fields.map fun (key, value) => (.text key, value))

/-- A list of texts. -/
def texts (items : List String) : Doc := .list (items.map .text)

/-- The document of a snapshot, with the fields of its stamp. -/
def snapshotDoc (rendering : Rendering) (stamp : List (String × Doc)) : Doc :=
  record ([("version", .int rendering.snapshot.version)] ++ stamp ++ [
    ("specs", texts (rendering.snapshot.bundles.keys.map (·.display))),
    ("resources", record (rendering.resources.map fun (label, names) => (label, texts names)))])

/-- The document of a failure. -/
def failureDoc (failure : Failure) : Doc :=
  record [
    ("spec", QualifiedName.codec.write failure.spec),
    ("kind", .text failure.fault.kind.label),
    ("message", .text failure.fault.message),
    ("retained", .bool failure.retained)]

/-- A list of names of specs. -/
def keys (names : List QualifiedName) : Doc := QualifiedName.codec.list.write names

/-- The document of a report, between the fields of its stamp. -/
def reportDoc (report : Report) (before after : List (String × Doc)) : Doc :=
  record (before ++ [
    ("version", .int report.version),
    ("synthesized", keys report.synthesized),
    ("retained", keys report.retained),
    ("removed", keys report.removed),
    ("failures", .list (report.failures.map failureDoc))] ++ after)

/-- The document of a rendering, with its stamp if there is one. -/
def doc (rendering : Rendering) (stamp : Option PassStamp) : Doc :=
  let field (name : String) (value : PassStamp → Doc) : List (String × Doc) :=
    (stamp.map fun stamp => (name, value stamp)).toList
  record [
    ("snapshot", rendering.snapshotDoc (field "createdAt" (.text ·.createdAt))),
    ("report", reportDoc rendering.report (field "passId" (.text ·.passId))
      (field "durationMs" (.int ·.millis)))]

/-- The text filled up with blanks to a width. -/
def padded (width : Nat) (text : String) : String :=
  .ofList (text.toList ++ List.replicate (width - text.length) ' ')

/-- A row of two columns. -/
def row (label name : String) : String :=
  padded 20 label ++ " " ++ padded 60 name

/-- The lines on specs without a new bundle. -/
def failures (report : Report) : List String :=
  (toString report.failures.length ++ " routing spec(s) failed:") ::
    report.failures.map fun failure =>
      "  " ++ failure.spec.display ++ " [" ++ failure.fault.kind.label ++ "] " ++
        failure.fault.message ++ " (" ++ (if failure.retained then "retained" else "not served") ++
        ")"

/-- The lines of a summary: the resources by type, and what failed. -/
def summary (rendering : Rendering) : List String :=
  [ "Snapshot version " ++ toString rendering.snapshot.version ++ " (" ++
      toString rendering.snapshot.bundles.size ++ " routing specs)",
    "",
    row "Type" "Name",
    .ofList (List.replicate 80 '-') ] ++
  (rendering.resources.flatMap fun (label, names) => names.map (row label)) ++
  [""] ++
  if rendering.report.clean then [] else failures rendering.report

end Rendering

end TrafficPlane.CommandLine
