import Fanout.Invocation.UsageError
import Fanout.Text.Line

/-!
# Help

What a command is for, how it is called and which options it knows, and what is said of a command
line that is at fault.
-/
namespace Fanout

namespace Parameter

def about : Parameter → String
  | .verbose => "Verbosity level"
  | .quiet => "Suppress non-essential output"
  | .config => "Cluster file (defaults to $GPCLUSTER_CONFIG or ~/.config/gpcluster/cluster.toml)"
  | .logDir => "Directory for the log file (defaults to ~/gpAdminLogs)"
  | .logLevel => "Log file verbosity, independent of -v/-q"
  | .scope => "Target segment instances or distinct machines"
  | .coordinator => "Include the coordinator"
  | .mirrors => "Include mirror segments"
  | .jobs => "Maximum hosts to run on at once (defaults to dispatch.jobs)"
  | .failFast => "Stop starting new hosts after the first failure"
  | .retries => "Retry ssh connection failures this many times (defaults to dispatch.retries)"
  | .onThisMachine => "Run the command locally once per host instead of over ssh"
  | .json => "Print the result as JSON"
  | .shell => "Shell to generate completions for"
  | .help => "Print help"
  | .version => "Print version"

/-- The names of an option, with a place for its value if it has one. -/
def synopsis (p : Parameter) : String :=
  let letter := p.letter?.elim "    " fun c => "-" ++ c.toString ++ ", "
  letter ++ p.text ++ if p.takesValue then " <VALUE>" else ""

def line (p : Parameter) : String :=
  "  " ++ Text.padRight 26 p.synopsis ++ p.about

end Parameter

namespace CommandName

def about : CommandName → String
  | .run => "Run a command on every selected host"
  | .ping => "Check that every selected host is reachable"
  | .hosts => "List the hosts a selection resolves to"
  | .completions => "Generate shell completions"

/-- What stands behind the options. -/
def operands : CommandName → String
  | .run => " <COMMAND>..."
  | .completions => " <SHELL>"
  | _ => ""

end CommandName

namespace NoInvocation

def usageLine : Part → String
  | none => "Usage: gpcluster [OPTIONS] <COMMAND>"
  | some c => "Usage: gpcluster " ++ c.name ++ " [OPTIONS]" ++ c.operands

/-- The commands, where one is still to be chosen. -/
def commandLines : Part → List String
  | none =>
    ["", "Commands:"] ++ CommandName.all.map fun c => "  " ++ Text.padRight 13 c.name ++ c.about
  | some _ => []

def helpText (part : Part) : String :=
  let title := part.elim
    "Run commands across the hosts of a segment database cluster" CommandName.about
  let options := (Parameter.ofPart part).map Parameter.line
  "\n".intercalate ([title, "", usageLine part] ++ commandLines part ++ ["", "Options:"] ++ options)
    ++ "\n"

/-- What is printed, and whether it goes to the standard output. -/
def text : NoInvocation → String × Bool
  | .help part => (helpText part, true)
  | .version part => (versionText part, true)
  | .nothingGiven => (helpText none, false)
  | .fault e =>
    ("error: " ++ e.message ++ "\n\n" ++ usageLine none ++
      "\n\nFor more information, try '--help'.\n", false)

end NoInvocation

end Fanout
