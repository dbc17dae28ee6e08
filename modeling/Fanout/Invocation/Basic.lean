import Fanout.Cluster
import Fanout.Log.Record

/-!
# Invocations

What one call of the program asks for: a command with the options that belong to it, and the
options that every command has.
-/
namespace Fanout

/-- A shell that completion scripts are written for. -/
inductive ScriptShell where
  | bash
  | elvish
  | fish
  | powershell
  | zsh
  deriving DecidableEq, Repr

namespace ScriptShell

def all : List ScriptShell := [.bash, .elvish, .fish, .powershell, .zsh]

def name : ScriptShell → String
  | .bash => "bash"
  | .elvish => "elvish"
  | .fish => "fish"
  | .powershell => "powershell"
  | .zsh => "zsh"

def ofName? (name : String) : Option ScriptShell :=
  all.find? fun s => s.name = name

end ScriptShell

/-- How a dispatch differs from what the cluster file says. -/
structure DispatchOptions where
  jobs : Option UInt64
  failFast : Bool
  retries : Option UInt32
  deriving DecidableEq

/-- A command. -/
inductive Request where
  /-- Runs the words as one command on every host of the scope. -/
  | run (words : List String) (scope : Scope) (options : DispatchOptions) (isLocal json : Bool)
  /-- Checks that every host of the scope can be reached. -/
  | ping (scope : Scope) (options : DispatchOptions) (json : Bool)
  /-- Lists the hosts of the scope. -/
  | hosts (scope : Scope) (json : Bool)
  /-- Writes a completion script. -/
  | completions (shell : ScriptShell)
  deriving DecidableEq

namespace Request

/-- Whether a command keeps a log file. A completion script never does. -/
def keepsLog : Request → Bool
  | .completions _ => false
  | _ => true

end Request

structure Invocation where
  /-- How often more output was asked for. -/
  verbosity : Nat
  quiet : Bool
  config : Option String
  logDir : Option String
  logLevel : Log.Threshold
  request : Request
  deriving DecidableEq

end Fanout
