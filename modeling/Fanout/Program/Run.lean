import Fanout.Console.Colors
import Fanout.Invocation.Completion
import Fanout.Program.Listing

/-!
# Running the program

The log is set up first, then the command is carried out. Whatever fails on the way is told on one
line of the error output and decides on the exit status; every failure gives a status of its own
kind, and none gives zero.
-/
namespace Fanout

/-- What a run of the program finds around it, in a world whose states are `σ`. -/
structure Setting (σ : Type) where
  env : Environment
  files : FileTree
  origin : Log.Origin
  /-- Starts programs. -/
  launch : Launcher σ
  /-- The world in which the first program is started. -/
  start : FileTree → σ
  /-- The order in which the workers of a dispatch act. -/
  pick : Dispatch.Schedule
  /-- Whether the outputs are terminals. -/
  stdoutTerminal : Bool
  stderrTerminal : Bool

/-- What a run of the program leaves. -/
structure Ending (σ : Type) where
  status : UInt8
  transcript : Transcript
  log : Option Log.LogFile
  world : σ

namespace Invocation

/-- What the console shows of the log. -/
def consoleThreshold (inv : Invocation) : Log.Threshold :=
  if inv.quiet then .upTo .error
  else match inv.verbosity with
    | 0 => .upTo .warn
    | 1 => .upTo .info
    | 2 => .upTo .debug
    | _ => .upTo .trace

/-- The log on the console. -/
def consoleLog (inv : Invocation) (colors : Bool) : Log.ConsoleLog :=
  ⟨inv.consoleThreshold, 0 < inv.verbosity, colors⟩

/-- Whether the run has a log file. -/
def opensLog (inv : Invocation) : Bool :=
  inv.logLevel ≠ .off && inv.request.keepsLog

end Invocation

namespace Setting

variable {σ : Type}

/-- Opens the log file of a run that has one. -/
def openLog (s : Setting σ) (inv : Invocation) :
    Except Failure (Option Log.LogFile × FileTree) :=
  if inv.opensLog then
    let opened := do
      let dir ← Path.logDir s.env inv.logDir
      Log.LogFile.openIn s.files s.env s.origin dir inv.logLevel
    (opened.mapError (.coded ExitCode.configInvalid)).map fun (file, files) => (some file, files)
  else .ok (none, s.files)

/-- The first record of a run that has a log file. -/
def startNote (file : Log.LogFile) : Log.Record :=
  ⟨.info, Log.Topic.program, Log.Topic.program ++ " started, logging to " ++ file.path⟩

def colors (s : Setting σ) : Bool :=
  Console.colorsResults s.env s.stdoutTerminal

def display (s : Setting σ) (inv : Invocation) (json : Bool) : Display :=
  ⟨inv.quiet, json, s.colors, s.stderrTerminal⟩

/-- The command by which a host shows that it can be reached. -/
def pingCommand : String := "hostname"

/-- A command that runs a template on the hosts of a scope. -/
def runTemplate (s : Setting σ) (inv : Invocation) (files : FileTree) (template label : String)
    (scope : Scope) (options : DispatchOptions) (isLocal json : Bool) :
    Except Failure Unit × Transcript × σ :=
  let (loaded, log) := loadCluster files s.env inv.config
  let notes := Transcript.ofRecords log
  match loaded with
  | .error e => (.error e, notes, s.start files)
  | .ok config =>
    let retries := options.retries.getD config.dispatch.retries
    let op := Operation.executor s.launch template isLocal config.ssh retries
    let e := execute (s.display inv json) config scope options s.pick op label (s.start files)
    (e.finish, notes ++ e.transcript, e.world)

/-- Carries out a command. -/
def perform (s : Setting σ) (inv : Invocation) (files : FileTree) :
    Except Failure Unit × Transcript × σ :=
  match inv.request with
  | .run words scope options isLocal json =>
    let template := " ".intercalate words
    s.runTemplate inv files template template scope options isLocal json
  | .ping scope options json =>
    s.runTemplate inv files pingCommand "ping" scope options false json
  | .hosts scope json =>
    let (result, notes) := listHosts files s.env inv.config s.colors json scope
    (result, notes, s.start files)
  | .completions shell => (.ok (), [.output shell.script], s.start files)

/-- What is told of a failure. -/
def failureNote (s : Setting σ) (f : Failure) : Note :=
  .diagnostic (Console.error s.colors f.render)

/-- The status a result gives. -/
def statusOf : Except Failure Unit → UInt8
  | .ok _ => 0
  | .error f => f.exitStatus

/-- A run of the program. -/
def run (s : Setting σ) (inv : Invocation) : Ending σ :=
  match s.openLog inv with
  | .error f => ⟨f.exitStatus, [s.failureNote f], none, s.start s.files⟩
  | .ok (file, files) =>
    let begin := file.toList.map fun file => Note.logged (startNote file)
    let (result, notes, world) := s.perform inv files
    let last := match result with
      | .ok _ => []
      | .error f => [s.failureNote f]
    ⟨statusOf result, begin ++ notes ++ last, file, world⟩

end Setting

namespace Ending

variable {σ : Type}

/-- The entries of the log file. -/
def logEntries (e : Ending σ) (clock : Nat → Moment) : List String :=
  match e.log with
  | some file => file.entries clock e.transcript.records
  | none => []

/-- The text on the error output. -/
def stderr (e : Ending σ) (s : Setting σ) (inv : Invocation) : String :=
  e.transcript.stderr (inv.consoleLog (Console.colorsLog s.env s.stderrTerminal))

end Ending

end Fanout
