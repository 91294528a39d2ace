import TrafficPlane.Document.Record
import TrafficPlane.Text.Blank

/-!
# Settings

What the operator of a process sets: the namespace whose specs are served, how much work runs at
once, and how the process reports on itself. Settings are read from environment variables and
checked before use.

## Main definitions

* `Settings`: the settings of a process, in two groups
* `Settings.ofVariables`: the settings that the environment describes
* `EngineSettings.scope`: the one namespace that is served, if there is one
-/

namespace TrafficPlane

open Text

/-- Settings of passes. -/
structure EngineSettings where
  space : String
  parallelism : UInt64
deriving DecidableEq, Repr, Inhabited

/-- Settings of logs and metrics. -/
structure ObservabilitySettings where
  logLevel : String
  jsonLogging : Bool
  metricsPort : UInt16
deriving DecidableEq, Repr, Inhabited

/-- The settings of a process. -/
structure Settings where
  engine : EngineSettings
  observability : ObservabilitySettings
deriving DecidableEq, Repr, Inhabited

/-- The documents of these settings name every field. -/
def EngineSettings.codec : Codec EngineSettings :=
  Record.codec {
    start := default
    fields := [
      .required "namespace" .text (·.space) fun v r => { r with space := v },
      .required "parallelism" .uint64 (·.parallelism) fun v r => { r with parallelism := v }] }

/-- The documents of these settings name every field. -/
def ObservabilitySettings.codec : Codec ObservabilitySettings :=
  Record.codec {
    start := default
    fields := [
      .required "log_level" .text (·.logLevel) fun v r => { r with logLevel := v },
      .required "json_logging" .bool (·.jsonLogging) fun v r => { r with jsonLogging := v },
      .required "metrics_port" .uint16 (·.metricsPort) fun v r => { r with metricsPort := v }] }

/-- The documents of settings name both groups. -/
def Settings.codec : Codec Settings :=
  Record.codec {
    start := default
    fields := [
      .required "engine" EngineSettings.codec (·.engine) fun v r => { r with engine := v },
      .required "observability" ObservabilitySettings.codec (·.observability) fun v r =>
        { r with observability := v }] }

/-- The one namespace whose specs are served. An asterisk stands for every namespace. -/
def EngineSettings.scope (settings : EngineSettings) : Option String :=
  if settings.space = "*" then none else some settings.space

/-- Where metrics are served. Port zero turns them off. -/
def ObservabilitySettings.bindAddress (settings : ObservabilitySettings) : Option String :=
  if settings.metricsPort = 0 then none
  else some ("0.0.0.0:" ++ toString settings.metricsPort.toNat)

/-- The rules that the settings break. -/
def EngineSettings.brokenRules (settings : EngineSettings) : List BrokenRule :=
  (if settings.space = "" then
    [{ field := "namespace", rule := "Namespace cannot be empty" }] else []) ++
  (if settings.parallelism < 1 ∨ 1024 < settings.parallelism then
    [{ field := "parallelism", rule := "Parallelism must be between 1 and 1024" }] else [])

/-- The rules that the settings break. -/
def ObservabilitySettings.brokenRules (settings : ObservabilitySettings) : List BrokenRule :=
  if settings.logLevel = "" then
    [{ field := "log_level", rule := "Log level cannot be empty" }] else []

/-- The rules that the settings of either group break. -/
def Settings.brokenRules (settings : Settings) : List BrokenRule :=
  (settings.engine.brokenRules.map fun broken => { broken with group := some "engine" }) ++
  (settings.observability.brokenRules.map fun broken =>
    { broken with group := some "observability" })

/-- No rule is broken. -/
def checkRules (broken : List BrokenRule) : Except Fault Unit :=
  if broken.isEmpty then .ok () else .error (.config (.brokenRules broken))

/-- A truth value. -/
def readBool (text : String) : Except SettingFault Bool :=
  if text = "true" then .ok true else if text = "false" then .ok false else .error .notBoolean

/-- An integer from zero to `high`. -/
def readUpTo (high : Int) (text : String) : Except SettingFault Nat :=
  match readInteger 0 high text with
  | .ok value => .ok value.toNat
  | .error fault => .error (.integer fault)

/-- Reads the value of a variable without the blanks around it. A variable that is not set gives
nothing. -/
def readVariable {α : Type} (lookup : String → Option String) (name : String)
    (read : String → Except SettingFault α) : Except Fault (Option α) :=
  match lookup name with
  | none => .ok none
  | some value =>
    match read (trim value) with
    | .ok result => .ok (some result)
    | .error fault => .error (.config (.unreadableSetting name value fault))

/-- The settings that the environment describes, checked against their rules. Without a variable for
it, as many specs are synthesized at once as there are processors. -/
def Settings.ofVariables (processors : UInt64) (lookup : String → Option String) :
    Except Fault Settings := do
  let parallelism ← readVariable lookup "ROUTEFORGE_PARALLELISM" (readUpTo 18446744073709551615)
  let jsonLogging ← readVariable lookup "ROUTEFORGE_JSON_LOGS" readBool
  let metricsPort ← readVariable lookup "ROUTEFORGE_METRICS_PORT" (readUpTo 65535)
  let settings : Settings := {
    engine := {
      space := (lookup "ROUTEFORGE_NAMESPACE").getD "*"
      parallelism := (parallelism.map UInt64.ofNat).getD processors }
    observability := {
      logLevel := (lookup "ROUTEFORGE_LOG_LEVEL").getD "info"
      jsonLogging := jsonLogging.getD false
      metricsPort := (metricsPort.map UInt16.ofNat).getD 0 } }
  checkRules settings.brokenRules
  return settings

end TrafficPlane
