import Fanout.Invocation.Reader
import Fanout.Invocation.Usage
import Fanout.Program.Run
import Fanout.Shell.Launch
import Std.Time

/-!
# The command line

Brings in what a run depends on, the environment and the files it may read, runs the program, and
brings out what it says and changes. Commands run on the machine of `Shell.launch`.
-/
namespace Fanout.Console

/-- Variables as a process has them, each ended by a zero octet. -/
def processVariables : IO (List (String × String)) := do
  let bytes ← IO.FS.readBinFile "/proc/self/environ"
  let texts := (Utf8.decodeLossy bytes.toList).splitOn "\x00"
  return texts.filterMap fun t =>
    match t.splitOn "=" with
    | name :: value :: more => some (name, "=".intercalate (value :: more))
    | _ => none

def environment : IO Environment := do
  return ⟨← processVariables, (← IO.currentDir).toString, none⟩

/-- The number of the error that reading a directory gives. -/
def directoryCode : UInt32 := 21

/-- What is at a path. -/
def entryAt (path : String) : IO (Option Entry) := do
  match ← (IO.FS.readBinFile path).toBaseIO with
  | .ok bytes => return some (.file bytes.toList false)
  | .error (.inappropriateType _ code _) => return if code = directoryCode then some .dir else none
  | .error (.permissionDenied _ _ _) => return some .dir
  | .error _ => return none

/-- Adds what is at a place and on the way to it. -/
def load (files : FileTree) (place : List String) : IO FileTree := do
  let mut tree := files
  for n in List.range place.length do
    let above := place.take (n + 1)
    if (tree.at? above).isNone then
      if let some e ← entryAt ("/" ++ "/".intercalate above) then tree := tree.put above e
  return tree

/-- The place of a path, as it is written. -/
def placeOf (env : Environment) (path : String) : List String :=
  let full := if path.startsWith "/" then path else env.workDir ++ "/" ++ path
  (full.splitOn "/").foldl (fun place name =>
    if name.isEmpty || name == "." then place
    else if name == ".." then place.dropLast else place ++ [name]) []

/-- The paths a run may read or write. -/
def pathsOf (env : Environment) (origin : Log.Origin) (inv : Invocation) : List String :=
  let config := (Path.configFile env inv.config).1.toOption.toList
  let log := (Path.logDir env inv.logDir).toOption.toList.map fun dir =>
    Path.join dir (Log.fileName origin.today)
  [env.workDir, "/tmp"] ++ config ++ log

/-- Writes what differs between two trees. -/
def settle (before after : FileTree) : IO Unit := do
  for (place, e) in after.entries do
    let path := "/" ++ "/".intercalate place
    match before.at? place, e with
    | none, .dir => IO.FS.createDirAll path
    | some (.file old _), .file new _ =>
      if old.isPrefixOf new then
        if old.length < new.length then
          let handle ← IO.FS.Handle.mk path .append
          handle.write ⟨(new.drop old.length).toArray⟩
      else IO.FS.writeBinFile path ⟨new.toArray⟩
    | _, .file new _ => IO.FS.writeBinFile path ⟨new.toArray⟩
    | _, .dir => pure ()

/-- The present moment. -/
def now : IO Moment := do
  let t ← Std.Time.PlainDateTime.now
  return ⟨⟨t.year.toInt, t.month.toNat, t.day.toNat⟩, t.hour.toNat, t.minute.toNat,
    t.second.toInt.toNat⟩

/-- Who writes the log. -/
def logOrigin : IO Log.Origin := do
  let moment ← now
  let host ← (IO.FS.readFile "/proc/sys/kernel/hostname").toBaseIO
  let stat ← (IO.FS.readFile "/proc/self/stat").toBaseIO
  let id := (stat.toOption.bind fun s => (s.splitOn " ").head?).bind String.toNat?
  return ⟨Text.trim (host.toOption.getD "unknown"), id.getD 0, moment.date, fun _ => moment⟩

/-- Runs an invocation. -/
def perform (env : Environment) (inv : Invocation) : IO UInt32 := do
  let origin ← logOrigin
  let stdout ← IO.getStdout
  let stderr ← IO.getStderr
  let before ← ((pathsOf env origin inv).map (placeOf env)).foldlM load FileTree.empty
  let setting : Setting FileTree := {
    env := env
    files := before
    origin := origin
    launch := Shell.launch env
    start := id
    pick := .inOrder
    stdoutTerminal := ← stdout.isTty
    stderrTerminal := ← stderr.isTty }
  let e := setting.run inv
  let after := match e.log with
    | some file => file.write e.world env (e.logEntries origin.clock)
    | none => e.world
  settle before after
  stdout.putStr e.transcript.stdout
  stderr.putStr (e.stderr setting inv)
  return e.status.toUInt32

end Fanout.Console

open Fanout in
def main (args : List String) : IO UInt32 := do
  let env ← Console.environment
  match Invocation.ofWords env args with
  | .ok inv => Console.perform env inv
  | .error e =>
    let (text, toStdout) := e.text
    if toStdout then IO.print text else IO.eprint text
    return e.status.toUInt32
