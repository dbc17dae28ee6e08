import Fanout.Failure
import Fanout.Log.Record
import Fanout.Path.Expand

/-!
# Where files are

The cluster file, its directory, and the directory of the log: each given on the command line, by
the environment, or in the home directory.
-/
namespace Fanout.Path

/-- A result with the log records written on the way to it. -/
abbrev Logged (α : Type) := Except Failure α × List Log.Record

def noHome : Failure := .message "Could not determine home directory"

def note (text : String) : Log.Record := ⟨.debug, Log.Topic.paths, text⟩

/-- The directory of the cluster file. -/
def configDir (env : Environment) : Logged String :=
  match env.get? "GPCLUSTER_CONFIG_DIR", env.get? "XDG_CONFIG_HOME", env.home? with
  | some dir, _, _ =>
    let path := expand env dir
    (.ok path, [note ("Using config dir from GPCLUSTER_CONFIG_DIR: " ++ path)])
  | none, some xdg, _ =>
    let path := join xdg "gpcluster"
    (.ok path, [note ("Using XDG_CONFIG_HOME: " ++ path)])
  | none, none, some home =>
    let path := join (join home ".config") "gpcluster"
    (.ok path, [note ("Using default config dir: " ++ path)])
  | none, none, none => (.error noHome, [])

/-- The cluster file. -/
def configFile (env : Environment) (given : Option String) : Logged String :=
  match given, env.get? "GPCLUSTER_CONFIG" with
  | some path, _ => (.ok (expand env path), [])
  | none, some file =>
    let path := expand env file
    (.ok path, [note ("Using cluster file from GPCLUSTER_CONFIG: " ++ path)])
  | none, none =>
    let (dir, log) := configDir env
    (dir.map fun d => join d "cluster.toml", log)

/-- The directory of the log. -/
def logDir (env : Environment) (given : Option String) : Except Failure String :=
  match given, env.home? with
  | some dir, _ => .ok (expand env dir)
  | none, some home => .ok (join home "gpAdminLogs")
  | none, none => .error noHome

end Fanout.Path
