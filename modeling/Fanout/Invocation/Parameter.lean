import Fanout.Invocation.Basic

/-!
# Commands and their parameters

The names of the commands, and for each the options it knows, by a long name and sometimes by a
letter. Options shared by all commands may stand before the command as well as after it.
-/
namespace Fanout

inductive CommandName where
  | run
  | ping
  | hosts
  | completions
  deriving DecidableEq, Repr

namespace CommandName

def all : List CommandName := [.run, .ping, .hosts, .completions]

def name : CommandName → String
  | .run => "run"
  | .ping => "ping"
  | .hosts => "hosts"
  | .completions => "completions"

def ofName? (name : String) : Option CommandName :=
  all.find? fun c => c.name = name

end CommandName

/-- A part of the command line: that of a command, or the one before it. -/
abbrev Part := Option CommandName

inductive Parameter where
  | verbose
  | quiet
  | config
  | logDir
  | logLevel
  | scope
  | coordinator
  | mirrors
  | jobs
  | failFast
  | retries
  | onThisMachine
  | json
  /-- The shell of a completion script, which has no name of its own. -/
  | shell
  | help
  | version
  deriving DecidableEq, Repr

namespace Parameter

def long? : Parameter → Option String
  | .verbose => some "verbose"
  | .quiet => some "quiet"
  | .config => some "config"
  | .logDir => some "log-dir"
  | .logLevel => some "log-level"
  | .scope => some "scope"
  | .coordinator => some "coordinator"
  | .mirrors => some "mirrors"
  | .jobs => some "jobs"
  | .failFast => some "fail-fast"
  | .retries => some "retries"
  | .onThisMachine => some "local"
  | .json => some "json"
  | .shell => none
  | .help => some "help"
  | .version => some "version"

def letter? : Parameter → Option Char
  | .verbose => some 'v'
  | .quiet => some 'q'
  | .config => some 'c'
  | .jobs => some 'j'
  | .help => some 'h'
  | .version => some 'V'
  | _ => none

/-- Whether a parameter has a value. -/
def takesValue : Parameter → Bool
  | .config => true
  | .logDir => true
  | .logLevel => true
  | .scope => true
  | .jobs => true
  | .retries => true
  | .shell => true
  | _ => false

/-- The variable that stands in for a parameter that is not given. -/
def envName? : Parameter → Option String
  | .logDir => some "GPCLUSTER_LOG_DIR"
  | .logLevel => some "GPCLUSTER_LOG_LEVEL"
  | _ => none

/-- The options that every command has. -/
def shared : List Parameter :=
  [.verbose, .quiet, .config, .logDir, .logLevel, .help, .version]

def ofSelection : List Parameter := [.scope, .coordinator, .mirrors]

def ofDispatch : List Parameter := [.jobs, .failFast, .retries]

/-- The options of a part. -/
def ofPart : Part → List Parameter
  | none => shared
  | some .run => shared ++ ofSelection ++ ofDispatch ++ [.onThisMachine, .json]
  | some .ping => shared ++ ofSelection ++ ofDispatch ++ [.json]
  | some .hosts => shared ++ ofSelection ++ [.json]
  | some .completions => shared

def ofLong? (s : Part) (name : String) : Option Parameter :=
  (ofPart s).find? fun p => p.long? = some name

def ofLetter? (s : Part) (c : Char) : Option Parameter :=
  (ofPart s).find? fun p => p.letter? = some c

/-- The parameter as it is written. -/
def text (p : Parameter) : String :=
  p.long?.elim "<SHELL>" fun name => "--" ++ name

end Parameter

end Fanout
