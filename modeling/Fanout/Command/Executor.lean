import Fanout.Command.Launch
import Fanout.Command.Template
import Fanout.Retry.Attempt

/-!
# Commands as operations

A command runs on a host through the ssh client, or locally in a shell that knows the host by its
environment. Only a remote command may be made again, and only when the client never reached the
host.
-/
namespace Fanout

/-- How the ssh client is called. -/
structure SshSettings where
  program : String
  /-- The remote user, if it is not up to the client. -/
  user : Option String
  /-- Arguments before the destination. -/
  options : List String
  deriving DecidableEq

def SshSettings.default : SshSettings := ⟨"ssh", none, []⟩

namespace SshSettings

/-- Where the client connects to. -/
def destination (ssh : SshSettings) (h : Host) : String :=
  ssh.user.elim h.hostname fun user => user ++ "@" ++ h.hostname

/-- The client's arguments for a host. -/
def args (ssh : SshSettings) (template : String) (h : Host) : List String :=
  ["-o", "BatchMode=yes"] ++ ssh.options ++ [ssh.destination h, expandTemplate template h]

end SshSettings

/-- The variables by which a local command knows its host. -/
def hostVars (h : Host) : List (String × String) :=
  [("GPCLUSTER_HOST", h.hostname), ("GPCLUSTER_PORT", h.portText),
    ("GPCLUSTER_CONTENT", h.contentText), ("GPCLUSTER_DATADIR", h.dataDirText),
    ("GPCLUSTER_ROLE", h.role.name)]

namespace Operation

variable {σ : Type}

/-- Starts the program of a command and notes the command line in the log. -/
def ofCommand (launch : Launcher σ) (command : Host → Command) (line : Host → String) :
    Operation σ := fun h world =>
  let (answer, world') := (command h).run launch world
  (⟨answer, [⟨.debug, Log.Topic.runner, h.id ++ ": " ++ line h⟩]⟩, world')

/-- A template as a command of the ssh client. -/
def remote (launch : Launcher σ) (template : String) (ssh : SshSettings) : Operation σ :=
  ofCommand launch (fun h => ⟨ssh.program, ssh.args template h, []⟩) fun h =>
    ssh.program ++ " " ++ " ".intercalate (ssh.args template h)

/-- A template as a command of the local shell. -/
def localShell (launch : Launcher σ) (template : String) : Operation σ :=
  ofCommand launch (fun h => ⟨"sh", ["-c", expandTemplate template h], hostVars h⟩) fun h =>
    "sh -c " ++ expandTemplate template h

/-- The operation of a command. -/
def executor (launch : Launcher σ) (template : String) (isLocal : Bool) (ssh : SshSettings)
    (retries : UInt32) : Operation σ :=
  if isLocal then localShell launch template
  else if retries = 0 then remote launch template ssh
  else (remote launch template ssh).retrying (.withRetries retries) Failure.isConnectionError

end Operation

end Fanout
