import Fanout.Console.Basic
import Fanout.Log.File

/-!
# The two logs of a run

Records go to the console and to a file, each with its own threshold. The report of a dispatch
stays off the console unless it is asked for, since commands print their own results.
-/
namespace Fanout.Log

/-- The log on the console. -/
structure ConsoleLog where
  threshold : Threshold
  showsReport : Bool
  colors : Bool

namespace ConsoleLog

/-- Whether a topic belongs to the report: the report's own, or any that begins like it. -/
def isReport (topic : String) : Bool :=
  Text.startsWith topic Topic.report

/-- What the console lets through of a topic. -/
def thresholdOf (console : ConsoleLog) (topic : String) : Threshold :=
  if isReport topic && !console.showsReport then .off else console.threshold

def admits (console : ConsoleLog) (level : Level) (topic : String) : Bool :=
  (console.thresholdOf topic).admits level

/-- A text in styles given by their numbers, if colours are on. -/
def styled (console : ConsoleLog) (codes : List String) (s : String) : String :=
  if console.colors then
    String.join (codes.map fun c => "\x1b[" ++ c ++ "m") ++ s ++ Console.reset
  else s

def levelStyle : Level → List String
  | .error => ["1", "31"]
  | .warn => ["33"]
  | .info => ["32"]
  | .debug => ["34"]
  | .trace => ["36"]

/-- The line of a record: its level and topic, and its text, whose further lines are indented. -/
def entry (console : ConsoleLog) (r : Record) : String :=
  let level := console.styled (levelStyle r.level) (Text.padRight 5 r.level.title)
  let topic := if r.topic.isEmpty then "" else " " ++ r.topic
  console.styled ["90"] "[" ++ level ++ topic ++ console.styled ["90"] "]" ++ " " ++
    Text.hang 4 r.text ++ "\n"

/-- What the console shows of a record. -/
def show? (console : ConsoleLog) (r : Record) : String :=
  if console.admits r.level r.topic then console.entry r else ""

end ConsoleLog

/-- The console and, if there is one, the file. -/
structure Tee where
  console : ConsoleLog
  file : Option LogFile

namespace Tee

def fileThreshold (tee : Tee) : Threshold :=
  tee.file.elim .off LogFile.threshold

/-- The most talkative threshold of the two. -/
def threshold (tee : Tee) : Threshold :=
  tee.console.threshold.max tee.fileThreshold

/-- Whether a record of this level and topic goes anywhere. -/
def admits (tee : Tee) (level : Level) (topic : String) : Bool :=
  tee.console.admits level topic || tee.fileThreshold.admits level

/-- What some records add to the console, as text, and to the file, as entries. -/
def deliver (tee : Tee) (clock : Nat → Moment) (records : List Record) : String × List String :=
  (String.join (records.map tee.console.show?),
    tee.file.elim [] fun file => file.entries clock records)

end Tee

end Fanout.Log
