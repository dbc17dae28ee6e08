import Fanout.Console.Basic
import Fanout.Host.Set
import Fanout.Outcome.Map

/-!
# Outcomes on the console

Every host gets a line with a mark and its id, in the order of the host set, and below it what it
wrote, six spaces in, where no text of one host can be taken for the line of another.
-/
namespace Fanout.Console

/-- How far below its host a text stands. -/
def textIndent : Nat := 6

/-- The lines of one host. -/
def hostLines (colors : Bool) (id : String) : Outcome → String
  | .success output =>
    line ("  " ++ paint colors .green "✓" ++ " " ++ id) ++
      if Text.isBlankText output then ""
      else line (paint colors .dimmed (Text.indent textIndent output))
  | .failed error =>
    line ("  " ++ paint colors .red "✗" ++ " " ++ id) ++
      line (paint colors .red (Text.indent textIndent error))
  | .cancelled =>
    line ("  " ++ paint colors .dimmed "-" ++ " " ++ id ++ " " ++
      paint colors .dimmed "(not attempted)")

/-- The counts below the hosts. -/
def summaryLines (colors : Bool) (s : Summary) : String :=
  if s.isSuccess then success colors (Text.count s.total "host" ++ " succeeded")
  else
    pair colors "Succeeded" (toString s.succeeded) ++ pair colors "Failed" (toString s.failed) ++
      if s.cancelled > 0 then pair colors "Not attempted" (toString s.cancelled) else ""

/-- The lines of all hosts, in the order of the set. -/
def bodyLines (colors : Bool) (hosts : HostSet) (m : Outcomes) : String :=
  String.join (hosts.ids.filterMap fun id => (m.get? id).map (hostLines colors id))

/-- A finished dispatch. -/
def outcomes (colors : Bool) (hosts : HostSet) (m : Outcomes) (label : String) : String :=
  if hosts.isEmpty then warning colors "No hosts selected"
  else
    header colors label ++ bodyLines colors hosts m ++ line "" ++ summaryLines colors m.summary

/-- What is told of a failed host while others still run: its id and the first line of its
error. -/
def failureNotice (colors : Bool) (id error : String) : String :=
  line ("  " ++ paint colors .red "✗" ++ " " ++ id ++ " (" ++ Text.firstLine error ++ ")")

end Fanout.Console
