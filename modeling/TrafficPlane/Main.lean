import TrafficPlane.CommandLine.Help
import TrafficPlane.CommandLine.Run

/-!
# The program

Reads the command line, the environment and the directories that a command names, runs the command,
and prints what it comes to.
-/

open TrafficPlane CommandLine

/-- Why the operating system refused something, in its own words. -/
def reasonOf (failure : IO.Error) : String :=
  let reason (code : UInt32) (details : String) : String :=
    details ++ " (os error " ++ toString code.toNat ++ ")"
  match failure with
  | .noFileOrDirectory _ code details => reason code details
  | .inappropriateType _ code details => reason code details
  | .permissionDenied _ code details => reason code details
  | .noSuchThing _ code details => reason code details
  | .resourceExhausted _ code details => reason code details
  | .invalidArgument _ code details => reason code details
  | failure => toString failure

/-- Reads the YAML files of a directory. -/
def readDirectory (path : String) : IO Directory := do
  try
    let found ← ((← IO.currentDir) / path).readDir
    let entries ← found.toList.filterMapM fun entry => do
      let name := entry.fileName
      if !({ name, content := .ok [] } : FileEntry).isYaml then return none
      try
        let bytes ← IO.FS.readBinFile entry.path
        return some { name, content := .ok bytes.toList }
      catch failure => return some { name, content := .error (reasonOf failure) }
    return { path, entries := .ok entries }
  catch failure => return { path, entries := .error (reasonOf failure) }

/-- The directories that a command reads. -/
def readDirectories (input : InputOptions) : IO (String → Directory) := do
  let specs ← readDirectory input.specs
  let memberships ←
    if input.membershipPath = input.specs then pure specs else readDirectory input.membershipPath
  return fun path => if path = input.specs then specs else memberships

/-- The stamp of a pass that has lasted for some milliseconds so far. The time of day is that of a
file made now. -/
def stampNow (millis : Nat) : IO PassStamp := do
  let (_, path) ← IO.FS.createTempFile
  let now := (← path.metadata).modified
  IO.FS.removeFile path
  let random ← IO.getRandomBytes 16
  return .ofReadings now.sec.toNat now.nsec.toNat millis random.toList

/-- The variables of the environment that settings are read from. -/
def settingVariables : List String :=
  ["ROUTEFORGE_NAMESPACE", "ROUTEFORGE_PARALLELISM", "ROUTEFORGE_LOG_LEVEL",
    "ROUTEFORGE_JSON_LOGS", "ROUTEFORGE_METRICS_PORT"]

/-- Reads the environment. -/
def readVariables : IO (String → Option String) := do
  let values ← settingVariables.mapM fun name => return (name, ← IO.getEnv name)
  return fun name => (values.lookup name).bind id

/-- The input of a command. -/
def inputOf : Command → InputOptions
  | .render input _ => input
  | .check input => input

/-- Runs the program. -/
def main (arguments : List String) : IO UInt32 := do
  match Invocation.ofArguments arguments with
  | .error .misuse =>
    for line in usageLines do IO.eprintln line
    return .ofNat Stop.misuse.exitCode
  | .error stop =>
    for line in stop.lines do IO.println line
    return .ofNat stop.exitCode
  | .ok invocation =>
    let lookup ← readVariables
    let start ← IO.monoMsNow
    let directoryAt ← readDirectories (inputOf invocation.command)
    let stamp ← stampNow ((← IO.monoMsNow) - start)
    let outcome := invocation.run 1 lookup directoryAt stamp
    for line in outcome.output do IO.println line
    for line in outcome.errors do IO.eprintln line
    return .ofNat outcome.exitCode
