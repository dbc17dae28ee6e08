import Fanout.Environment
import Fanout.Failure
import Fanout.FileTree
import Fanout.Log.Calendar
import Fanout.Log.Record
import Fanout.Path.Expand

/-!
# The log file

Every day has a file of its own, to which the runs of that day append. A line begins with the
moment, and with the program, the user, the host and the process that wrote it.
-/
namespace Fanout.Log

/-- The running program, as its log lines tell it from others. -/
structure Origin where
  host : String
  id : Nat
  /-- The day that names the log file. -/
  today : Date
  /-- When the n-th line is written. -/
  clock : Nat → Moment

/-- The name of the log file of a day. -/
def fileName (day : Date) : String :=
  Topic.program ++ "_" ++ day.compact ++ ".log"

/-- The user on whose behalf the program runs. -/
def user (env : Environment) : String :=
  ((env.get? "USER").orElse fun _ => env.get? "LOGNAME").getD "unknown"

/-- What all lines of one run have in common. -/
def header (env : Environment) (origin : Origin) : String :=
  ":".intercalate [Topic.program, user env, origin.host, Date.digits 6 origin.id]

/-- The level as log files name it. -/
def Level.fileName : Level → String
  | .warn => "WARNING"
  | level => level.title

/-- A log file in use. -/
structure LogFile where
  path : String
  threshold : Threshold
  header : String

namespace LogFile

/-- What a record adds to the file. -/
def entry (file : LogFile) (moment : Moment) (r : Record) : String :=
  moment.stamp ++ " " ++ file.header ++ "-[" ++ r.level.fileName ++ "]:-" ++ r.text ++ "\n"

/-- The entries of the records that the file's threshold admits, in order. -/
def entries (file : LogFile) (clock : Nat → Moment) (records : List Record) : List String :=
  (records.filter fun r => file.threshold.admits r.level).zipIdx.map fun (r, n) =>
    file.entry (clock n) r

def noDirectory (dir : String) (cause : OsError) : Failure :=
  .context ("Could not create log directory " ++ dir) (.os cause)

def notOpened (path : String) (cause : OsError) : Failure :=
  .context ("Could not open log file " ++ path) (.os cause)

/-- Opens the file of the day in a directory. Both are made if they are missing. -/
def openIn (files : FileTree) (env : Environment) (origin : Origin) (dir : String)
    (threshold : Threshold) : Except Failure (LogFile × FileTree) := do
  let files ← (files.makeDirs env.workDir dir).mapError (noDirectory dir)
  let path := Path.join dir (fileName origin.today)
  let files ← (files.append env.workDir path []).mapError (notOpened path)
  return (⟨path, threshold, Log.header env origin⟩, files)

/-- Appends entries to the file, as far as it can be written. -/
def write (file : LogFile) (files : FileTree) (env : Environment) (entries : List String) :
    FileTree :=
  match files.append env.workDir file.path (Utf8.encode (String.join entries)) with
  | .ok files => files
  | .error _ => files

end LogFile

end Fanout.Log
