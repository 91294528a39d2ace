import TrafficPlane.CommandLine.Rendering

/-!
# Runs of the program

What a command prints and how the program exits, given the environment and the directories.

## Main definitions

* `Outcome`: what is printed, and the exit code
* `Invocation.run`: runs a command
-/

namespace TrafficPlane.CommandLine

/-- What a run prints and how it exits. -/
structure Outcome where
  exitCode : Nat := 0
  output : List String := []
  errors : List String := []
deriving DecidableEq, Repr

/-- What a run could not do, and the fault that kept it from doing so. -/
structure Trouble where
  context : String
  fault : Fault
deriving DecidableEq, Repr

/-- The messages of a trouble, the outermost first. -/
def Trouble.chain (trouble : Trouble) : List String :=
  [trouble.context, trouble.fault.message]

/-- The lines of a text, where each is indented. -/
def indented (text : String) : List String :=
  (text.splitOn "\n").map ("    " ++ ·)

/-- The run that ends with a trouble. -/
def Outcome.ofTrouble (trouble : Trouble) : Outcome where
  exitCode := 1
  errors := ["Error: " ++ trouble.context, "", "Caused by:"] ++ indented trouble.fault.message

/-- Runs the pass that a command needs. -/
def renderOrTrouble (directoryAt : String → Directory) (input : InputOptions)
    (settings : EngineSettings) : Except Trouble Rendering :=
  match render directoryAt input settings with
  | .ok rendering => .ok rendering
  | .error fault =>
    .error { context := "Synthesis pass over " ++ input.specs ++ " failed", fault }

/-- Reads the settings from the environment. -/
def settingsOrTrouble (processors : UInt64) (lookup : String → Option String) :
    Except Trouble Settings :=
  match Settings.ofVariables processors lookup with
  | .ok settings => .ok settings
  | .error fault => .error { context := "Failed to load configuration", fault }

/-- What a rendering is printed as in a format. -/
def Rendering.lines (rendering : Rendering) (format : OutputFormat) (stamp : PassStamp) :
    List String :=
  match format with
  | .json => [(rendering.doc (some stamp)).json .indented]
  | .summary => rendering.summary

/-- What the check of a rendering comes to: it fails if a spec did. -/
def Rendering.verdict (rendering : Rendering) : Outcome :=
  if rendering.report.clean then {
    output := ["All " ++ toString rendering.report.synthesized.length ++
      " routing specs synthesized (version " ++ toString rendering.report.version ++ ")"] }
  else { exitCode := 1, output := Rendering.failures rendering.report }

/-- Runs a command. -/
def Command.run (command : Command) (directoryAt : String → Directory) (settings : EngineSettings)
    (stamp : PassStamp) : Except Trouble Outcome :=
  match command with
  | .render input format =>
    (fun rendering => { output := rendering.lines format stamp }) <$>
      renderOrTrouble directoryAt input settings
  | .check input => Rendering.verdict <$> renderOrTrouble directoryAt input settings

/-- Runs what a command line asks for. Settings are read before anything else is done. -/
def Invocation.run (invocation : Invocation) (processors : UInt64)
    (lookup : String → Option String) (directoryAt : String → Directory) (stamp : PassStamp) :
    Outcome :=
  let outcome := do
    let settings ← settingsOrTrouble processors lookup
    invocation.command.run directoryAt settings.engine stamp
  match outcome with
  | .ok outcome => outcome
  | .error trouble => .ofTrouble trouble

end TrafficPlane.CommandLine
