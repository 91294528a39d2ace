import TrafficPlane.CommandLine.Arguments

/-!
# Help

What the program says about itself.

## Main definitions

* `Stop.lines`: what is printed in place of a run
-/

namespace TrafficPlane.CommandLine

/-- The name and the version of the program. -/
def versionLine : String := "routeforge 0.1.0"

/-- The line on the switch that the program and every command have, with a gap between its
columns. -/
def verboseLine (gap : String) : String := "  -v, --verbose" ++ gap ++ "Enable verbose logging"

/-- The lines on the program. -/
def programHelp : List String := [
  "Synthesize Envoy xDS resources for proxyless gRPC services",
  "",
  "Usage: routeforge [OPTIONS] <COMMAND>",
  "",
  "Commands:",
  "  render  Run one pass and print the resulting snapshot",
  "  check   Run one pass and exit non-zero if any routing spec failed",
  "  help    Print this message or the help of the given subcommand(s)",
  "",
  "Options:",
  verboseLine "  ",
  "  -h, --help     Print help",
  "  -V, --version  Print version"]

/-- The lines on the options of a command. -/
def inputHelp : List String := [
  "      --specs <SPECS>            Directory holding RoutingSpec documents",
  verboseLine "                  ",
  "      --membership <MEMBERSHIP>  Directory holding Membership documents (defaults to --specs)",
  "  -n, --namespace <NAMESPACE>    Only synthesize routing specs from this namespace"]

/-- The lines on one command. -/
def commandHelp (name : CommandName) : List String :=
  let (about, own) := match name with
    | .render => ("Run one pass and print the resulting snapshot",
        ["  -o, --output <OUTPUT>          Output format [default: json] " ++
          "[possible values: json, summary]"])
    | .check => ("Run one pass and exit non-zero if any routing spec failed", [])
  [about, "", "Usage: routeforge " ++ name.word ++ " [OPTIONS] --specs <SPECS>", "", "Options:"] ++
    inputHelp ++ own ++ ["  -h, --help                     Print help"]

/-- The lines on the help itself. -/
def helpHelp : List String := [
  "Print this message or the help of the given subcommand(s)",
  "",
  "Usage: routeforge help [COMMAND]...",
  "",
  "Arguments:",
  "  [COMMAND]...  Print help for the subcommand(s)"]

/-- The lines that are printed in place of a run. -/
def Stop.lines : Stop → List String
  | .help .program => programHelp
  | .help (.command name) => commandHelp name
  | .help .help => helpHelp
  | .version => [versionLine]
  | .misuse => []

/-- What a wrong command line is answered with. -/
def usageLines : List String := [
  "error: the command line is not understood",
  "",
  "Usage: routeforge [OPTIONS] <COMMAND>",
  "",
  "For more information, try '--help'."]

end TrafficPlane.CommandLine
