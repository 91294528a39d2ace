import TrafficPlane.Spec.Routing
import TrafficPlane.Text.Integer
import TrafficPlane.Text.Quoted

/-!
# Faults

Why an operation fails. Configuration and resolution faults concern a single routing spec; a
transient fault ends a whole pass, which may succeed when it is run again.

## Main definitions

* `Fault`: a cause of one of seven kinds
* `Fault.message`: the text that reports and messages show
* `Fault.retryable`: the same pass may succeed later
-/

namespace TrafficPlane

open Text

/-- Why the value of a setting cannot be read. -/
inductive SettingFault where
  | integer (fault : IntegerFault)
  | notBoolean
deriving DecidableEq, Repr

/-- What is wrong with a setting, in words. -/
def SettingFault.message : SettingFault → String
  | .integer fault => fault.message
  | .notBoolean => "provided string was not \x60true\x60 or \x60false\x60"

/-- A setting that breaks its rule. -/
structure BrokenRule where
  group : Option String := none
  field : String
  rule : String
deriving DecidableEq, Repr

/-- The setting and its rule. -/
def BrokenRule.message (broken : BrokenRule) : String :=
  (broken.group.map (· ++ ".")).getD "" ++ broken.field ++ ": " ++ broken.rule

/-- Declarations that can never be served, whatever endpoints there are. -/
inductive ConfigCause where
  | unsupportedEngine (engine : String)
  | emptyRegex
  | invalidRegex (source : String)
  | namelessHeader
  | headerCriteria (name : String) (found : List String)
  | unknownDenominator (name : String)
  | routeWithoutClusters (route : Nat) (spec : QualifiedName)
  | undeclaredCluster (route : Nat) (spec : QualifiedName) (cluster : String)
  | excessiveWeight (route : Nat) (spec : QualifiedName) (total : Nat)
  | namelessListener (spec : QualifiedName)
  | repeatedCluster (spec : QualifiedName) (cluster : String)
  | clusterWithoutLocalities (cluster : String)
  | priorityGap (cluster : String) (priorities : List UInt32)
  | localityWithoutService
  | inCluster (cluster : String) (cause : ConfigCause)
  | listenerTaken (listener : String) (spec owner : QualifiedName)
  | unreadableSetting (setting value : String) (fault : SettingFault)
  | brokenRules (rules : List BrokenRule)
  | reported (text : String)
deriving DecidableEq, Repr

/-- References that no membership answers. -/
inductive ResolutionCause where
  | noEndpoints (service : QualifiedName)
  | portNotFound (port : PortRef) (service : QualifiedName)
  | inCluster (cluster : String) (cause : ResolutionCause)
  | reported (text : String)
deriving DecidableEq, Repr

/-- Inputs that could not be listed this time. -/
inductive TransientCause where
  | listing (directory reason : String)
  | reading (path reason : String)
  | reported (text : String)
deriving DecidableEq, Repr

/-- What is wrong with a document. -/
inductive DocumentFault where
  | malformed
  | portWithoutSelector
  | portWithTwoSelectors
deriving DecidableEq, Repr

/-- Documents that cannot be read. -/
inductive SerializationCause where
  | document (fault : DocumentFault)
  | file (path : String) (fault : DocumentFault)
  | reported (text : String)
deriving DecidableEq, Repr

/-- Generated resources that do not fit together. -/
inductive InternalCause where
  | undecodableManager (listener : String)
  | listenerWithoutRoutes (listener : String)
  | repeatedName (version : Nat) (name typeUrl : String)
  | danglingReference (version : Nat) (source target : String)
  | staleVersion (version current : Nat)
  | reported (text : String)
deriving DecidableEq, Repr

/-- The kinds of faults. -/
inductive FaultKind where
  | config
  | resolution
  | transient
  | cancelled
  | io
  | serialization
  | internal
deriving DecidableEq, Repr

/-- Why an operation failed. -/
inductive Fault where
  | config (cause : ConfigCause)
  | resolution (cause : ResolutionCause)
  | transient (cause : TransientCause)
  | cancelled
  | io (text : String)
  | serialization (cause : SerializationCause)
  | internal (cause : InternalCause)
deriving DecidableEq, Repr

/-- The word for a kind in reports and metrics. -/
def FaultKind.label : FaultKind → String
  | .config => "config"
  | .resolution => "resolution"
  | .transient => "transient"
  | .cancelled => "cancelled"
  | .io => "io"
  | .serialization => "serialization"
  | .internal => "internal"

/-- The port as messages name it. -/
def PortRef.display : PortRef → String
  | .named name => "port " ++ quote name
  | .numbered number => "port " ++ toString number.toNat

/-- The cause in words. -/
def ConfigCause.message : ConfigCause → String
  | .unsupportedEngine engine =>
    "unsupported regex engine " ++ quote engine ++ ", only \"re2\" is supported"
  | .emptyRegex => "regex must not be empty"
  | .invalidRegex source => "invalid regex " ++ quote source
  | .namelessHeader => "header matcher requires a header name"
  | .headerCriteria name found =>
    "invalid header matcher for " ++ quote name ++ ": exactly one of exact, regex, range, " ++
      "present, prefix, suffix must be set (found [" ++ ", ".intercalate found ++ "])"
  | .unknownDenominator name =>
    "unknown fraction denominator " ++ quote name ++ ", expected HUNDRED, TEN_THOUSAND or MILLION"
  | .routeWithoutClusters route spec =>
    "route " ++ toString route ++ " of " ++ spec.display ++ " has no cluster references"
  | .undeclaredCluster route spec cluster =>
    "route " ++ toString route ++ " of " ++ spec.display ++ " references undeclared cluster " ++
      quote cluster
  | .excessiveWeight route spec total =>
    "route " ++ toString route ++ " of " ++ spec.display ++ " has a total cluster weight of " ++
      toString total ++ ", which exceeds 4294967295"
  | .namelessListener spec => spec.display ++ " does not name a listener"
  | .repeatedCluster spec cluster =>
    spec.display ++ " declares cluster " ++ quote cluster ++ " more than once"
  | .clusterWithoutLocalities cluster => "cluster " ++ quote cluster ++ " declares no localities"
  | .priorityGap cluster priorities =>
    "cluster " ++ quote cluster ++ " has non-contiguous locality priorities [" ++
      ", ".intercalate (priorities.map fun p => toString p.toNat) ++
      "]; priorities must start at 0"
  | .localityWithoutService => "unsupported non-service locality"
  | .inCluster cluster cause => "cluster " ++ quote cluster ++ ": " ++ cause.message
  | .listenerTaken listener spec owner =>
    "listener " ++ quote listener ++ " of " ++ spec.display ++ " is already served by " ++
      owner.display
  | .unreadableSetting setting value fault =>
    "Invalid " ++ setting ++ " " ++ quote value ++ ": " ++ fault.message
  | .brokenRules rules =>
    "Validation failed: " ++ "; ".intercalate (rules.map BrokenRule.message)
  | .reported text => text

/-- The cause in words. -/
def ResolutionCause.message : ResolutionCause → String
  | .noEndpoints service => "no endpoints found for service " ++ service.display
  | .portNotFound port service => port.display ++ " not found on service " ++ service.display
  | .inCluster cluster cause => "cluster " ++ quote cluster ++ ": " ++ cause.message
  | .reported text => text

/-- The cause in words. -/
def TransientCause.message : TransientCause → String
  | .listing directory reason => "failed to list " ++ directory ++ ": " ++ reason
  | .reading path reason => "failed to read " ++ path ++ ": " ++ reason
  | .reported text => text

/-- The fault in words, where it has any of its own. -/
def DocumentFault.message? : DocumentFault → Option String
  | .malformed => none
  | .portWithoutSelector => some "port must set a name or a number"
  | .portWithTwoSelectors => some "port must set exactly one of name or number"

/-- The cause in words. A malformed file is named, and nothing more is said of it. -/
def SerializationCause.message : SerializationCause → String
  | .document fault => fault.message?.getD "malformed document"
  | .file path fault => path ++ (fault.message?.map (": " ++ ·)).getD ""
  | .reported text => text

/-- The cause in words. -/
def InternalCause.message : InternalCause → String
  | .undecodableManager listener =>
    "listener " ++ listener ++ " has an undecodable connection manager"
  | .listenerWithoutRoutes listener => "listener " ++ listener ++ " does not use RDS"
  | .repeatedName version name typeUrl =>
    "snapshot " ++ toString version ++ " carries " ++ name ++ " twice for " ++ typeUrl
  | .danglingReference version source target =>
    "snapshot " ++ toString version ++ " has a dangling reference from " ++ source ++ " to " ++
      target
  | .staleVersion version current =>
    "snapshot version " ++ toString version ++ " does not advance past " ++ toString current
  | .reported text => text

namespace Fault

/-- The kind of a fault. -/
def kind : Fault → FaultKind
  | .config _ => .config
  | .resolution _ => .resolution
  | .transient _ => .transient
  | .cancelled => .cancelled
  | .io _ => .io
  | .serialization _ => .serialization
  | .internal _ => .internal

/-- The text that reports and messages show. -/
def message : Fault → String
  | .config cause => "Configuration error: " ++ cause.message
  | .resolution cause => "Resolution error: " ++ cause.message
  | .transient cause => "Transient error: " ++ cause.message
  | .cancelled => "Synthesis pass cancelled"
  | .io text => "I/O error: " ++ text
  | .serialization cause => "Serialization error: " ++ cause.message
  | .internal cause => "Internal error: " ++ cause.message

/-- The same pass may succeed when it is run again. -/
def retryable (fault : Fault) : Bool :=
  fault.kind == .transient || fault.kind == .cancelled

/-- A fault of a given kind that an outside source reports in its own words. -/
def reported (kind : FaultKind) (text : String) : Fault :=
  match kind with
  | .config => .config (.reported text)
  | .resolution => .resolution (.reported text)
  | .transient => .transient (.reported text)
  | .cancelled => .cancelled
  | .io => .io text
  | .serialization => .serialization (.reported text)
  | .internal => .internal (.reported text)

end Fault

/-- The kind that goes by a word. -/
def FaultKind.ofLabel? (label : String) : Option FaultKind :=
  [FaultKind.config, .resolution, .transient, .cancelled, .io, .serialization, .internal].find?
    (·.label == label)

end TrafficPlane
