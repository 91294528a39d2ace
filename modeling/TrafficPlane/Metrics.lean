import TrafficPlane.Number.Binary64
import TrafficPlane.Snapshot.Basic

/-!
# Metrics

Counts of passes and failures, and gauges that describe the live snapshot, in the text form that
collectors read.

## Main definitions

* `Metrics`: what has been recorded
* `Metrics.recordPass`, `Metrics.recordFailure`, `Metrics.recordPublished`,
  `Metrics.recordResources`
* `Metrics.samples`, `Metrics.help`: the lines that collectors read
-/

namespace TrafficPlane

/-- Numbers by label, with each label once. -/
abbrev Series := List (String × Nat)

namespace Series

/-- The series with a number changed, which counts as zero before it is set. -/
def update (label : String) (f : Nat → Nat) : Series → Series
  | [] => [(label, f 0)]
  | (l, n) :: rest => if l = label then (l, f n) :: rest else (l, n) :: update label f rest

end Series

/-- The gauges of a published snapshot. -/
structure PublishedGauges where
  version : Nat
  bundles : Nat
  retained : Nat
deriving DecidableEq, Repr

/-- What has been recorded. -/
structure Metrics where
  passes : Series := []
  failures : Series := []
  published : Option PublishedGauges := none
  resources : Series := []
deriving DecidableEq, Repr, Inhabited

/-- How a pass ended. -/
inductive PassOutcome where
  | published
  | cancelled
  | aborted
deriving DecidableEq, Repr

/-- The label of passes that ended this way. -/
def PassOutcome.label : PassOutcome → String
  | published => "published"
  | cancelled => "cancelled"
  | aborted => "aborted"

namespace Metrics

/-- One more pass ended with an outcome. -/
def recordPass (metrics : Metrics) (outcome : String) : Metrics :=
  { metrics with passes := Series.update outcome (· + 1) metrics.passes }

/-- One more spec failed with a fault of a kind. -/
def recordFailure (metrics : Metrics) (kind : String) : Metrics :=
  { metrics with failures := Series.update kind (· + 1) metrics.failures }

/-- A snapshot was published. -/
def recordPublished (metrics : Metrics) (version bundles retained : Nat) : Metrics :=
  { metrics with published := some { version, bundles, retained } }

/-- The live snapshot has a number of resources of a type. -/
def recordResources (metrics : Metrics) (typeUrl : String) (count : Nat) : Metrics :=
  { metrics with resources := Series.update typeUrl (fun _ => count) metrics.resources }

/-- The value of a label, where a quote, a line end and a backslash are escaped. A backslash in
front of a quote, of a line end or of a backslash is taken as their escape. -/
def escapeLabel (held : Bool) : List Char → List Char
  | [] => if held then ['\\', '\\'] else []
  | c :: rest =>
    if c = '"' then '\\' :: '"' :: escapeLabel false rest
    else if c = '\n' then '\\' :: 'n' :: escapeLabel false rest
    else if c = '\\' then
      if held then '\\' :: '\\' :: escapeLabel false rest else escapeLabel true rest
    else if held then '\\' :: '\\' :: c :: escapeLabel false rest
    else c :: escapeLabel false rest

/-- The lines of the numbers of a series. -/
def seriesLines (name label : String) (value : Nat → String) (series : Series) : List String :=
  series.map fun (l, n) =>
    name ++ "\x7b" ++ label ++ "=\"" ++ .ofList (escapeLabel false l.toList) ++ "\"\x7d " ++ value n

/-- The lines of all numbers that have been recorded, in order. -/
def samples (metrics : Metrics) : List String :=
  let gauges := match metrics.published with
    | none => []
    | some gauges => [
      "routeforge_snapshot_version " ++ Binary64.text gauges.version,
      "routeforge_snapshot_bundles " ++ Binary64.text gauges.bundles,
      "routeforge_snapshot_retained_bundles " ++ Binary64.text gauges.retained]
  (seriesLines "routeforge_passes_total" "outcome" toString metrics.passes ++
    seriesLines "routeforge_spec_failures_total" "kind" toString metrics.failures ++ gauges ++
    seriesLines "routeforge_snapshot_resources" "type_url" Binary64.text
      metrics.resources).mergeSort

/-- The lines that describe the numbers that have been recorded, in order. -/
def help (metrics : Metrics) : List String :=
  let line (recorded : Bool) (name text : String) : List String :=
    if recorded then ["# HELP " ++ name ++ " " ++ text] else []
  (line (!metrics.passes.isEmpty) "routeforge_passes_total" "Synthesis passes by outcome" ++
    line (!metrics.passes.isEmpty) "routeforge_pass_duration_seconds"
      "Wall-clock duration of synthesis passes" ++
    line (!metrics.failures.isEmpty) "routeforge_spec_failures_total"
      "Routing specs that failed to synthesize, by error kind" ++
    line metrics.published.isSome "routeforge_snapshot_version" "Version of the live snapshot" ++
    line metrics.published.isSome "routeforge_snapshot_bundles"
      "Service bundles in the live snapshot" ++
    line metrics.published.isSome "routeforge_snapshot_retained_bundles"
      "Bundles carried over from an earlier pass after their spec failed" ++
    line (!metrics.resources.isEmpty) "routeforge_snapshot_resources"
      "Resources in the live snapshot per type URL").mergeSort

end Metrics

end TrafficPlane
