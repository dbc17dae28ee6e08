import Fanout.Invocation.Parameter

/-!
# Command lines that ask for nothing to be done

A command line may ask for help or the version, or be at fault.
-/
namespace Fanout

inductive UsageError where
  | unknownArgument (word : String)
  | unknownCommand (word : String)
  | missingCommand
  /-- A command was given without what it needs. -/
  | missingArgument (part : Part)
  /-- A value is missing, empty, or none of those allowed. -/
  | badValue (p : Parameter) (value : String)
  /-- A number is malformed or out of range. -/
  | badNumber (p : Parameter) (value : String)
  | superfluousValue (p : Parameter) (value : String)
  | repeated (p : Parameter)
  deriving DecidableEq

namespace UsageError

def message : UsageError → String
  | .unknownArgument word => "unexpected argument '" ++ word ++ "' found"
  | .unknownCommand word => "unrecognized subcommand '" ++ word ++ "'"
  | .missingCommand => "'gpcluster' requires a subcommand but one was not provided"
  | .missingArgument _ => "a required argument was not provided"
  | .badValue p value => "invalid value '" ++ value ++ "' for '" ++ p.text ++ "'"
  | .badNumber p value => "invalid value '" ++ value ++ "' for '" ++ p.text ++ "'"
  | .superfluousValue p value => "unexpected value '" ++ value ++ "' for '" ++ p.text ++ "'"
  | .repeated p => "the argument '" ++ p.text ++ "' cannot be used multiple times"

end UsageError

/-- Why a command line is no invocation. -/
inductive NoInvocation where
  | help (part : Part)
  | version (part : Part)
  /-- Nothing at all was given, which is answered with help. -/
  | nothingGiven
  | fault (cause : UsageError)
  deriving DecidableEq

namespace NoInvocation

/-- The exit status: only what was asked for is no error. -/
def status : NoInvocation → UInt8
  | .help _ => 0
  | .version _ => 0
  | .nothingGiven => 2
  | .fault _ => 2

/-- The program's name, with the command's where it is one of its own. -/
def programName (s : Part) : String :=
  s.elim Log.Topic.program fun c => Log.Topic.program ++ "-" ++ c.name

def releaseNumber : String := "0.1.0"

def versionText (s : Part) : String :=
  programName s ++ " " ++ releaseNumber ++ "\n"

end NoInvocation

end Fanout
