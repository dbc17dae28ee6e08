import Fanout.Config.Load
import Fanout.Console.HostTable
import Fanout.Host.Codec
import Fanout.Program.Dispatching

/-!
# Listing hosts

The hosts a scope covers, as a table or as JSON.
-/
namespace Fanout

/-- The configuration in the cluster file. That it cannot be had is the configuration's failure. -/
def loadCluster (files : FileTree) (env : Environment) (given : Option String) :
    Path.Logged Config :=
  let (result, log) := Config.load files env given
  (result.mapError (.coded ExitCode.configInvalid), log)

/-- The text that lists the hosts of a scope. -/
def listing (colors json : Bool) (config : Config) (scope : Scope) : Except Failure String :=
  match config.cluster.select scope with
  | .error f => .error (selectionFailure f)
  | .ok hosts =>
    if json then .ok ((Host.listToJson hosts.hosts).pretty ++ "\n")
    else .ok (Console.hostTable colors hosts config.cluster.contentIds.length)

/-- Loads the cluster file and lists the hosts of a scope. -/
def listHosts (files : FileTree) (env : Environment) (given : Option String) (colors json : Bool)
    (scope : Scope) : Except Failure Unit × Transcript :=
  let (loaded, log) := loadCluster files env given
  let notes := Transcript.ofRecords log
  match loaded with
  | .error e => (.error e, notes)
  | .ok config =>
    match listing colors json config scope with
    | .error e => (.error e, notes)
    | .ok text => (.ok (), notes ++ [.output text])

end Fanout
