import Fanout.Failure
import Fanout.Log.Record
import Fanout.Outcome.Map
import Fanout.Text.Line

/-!
# Verdict and report

What the outcomes of a dispatch come to. The diagnostic names every host that failed with its
whole error, and on a last line those that never ran; the report gives each such host one line and
ends in a count. Both name the same hosts in the same order.
-/
namespace Fanout

/-- An error inside the diagnostic: its later lines stand under the host they belong to. -/
def diagnosticError (error : String) : String :=
  Text.hang 4 (Text.trim error)

namespace Outcomes

/-- The combined diagnostic, if not every host succeeded. -/
def diagnostic? (m : Outcomes) : Option String :=
  let s := m.summary
  if s.isSuccess then none
  else
    let head := s!"{s.failures} of {s.total} hosts failed"
    let failed := m.failed.map fun e => "\n  " ++ e.1 ++ ": " ++ diagnosticError e.2
    let tail := if m.cancelled.isEmpty then ""
      else "\n  not attempted (dispatch cancelled): " ++ ", ".intercalate m.cancelled
    some (head ++ String.join failed ++ tail)

/-- The report: a line per host that did not succeed, then the count. -/
def report (m : Outcomes) : List (Log.Level × String) :=
  let s := m.summary
  let failed := m.failed.map fun e =>
    (Log.Level.error, e.1 ++ ": " ++ Text.firstLine (Text.trim e.2))
  let cancelled := m.cancelled.map fun id =>
    (Log.Level.warn, id ++ ": not attempted (dispatch cancelled)")
  let last := if s.isSuccess then (Log.Level.info, s!"{s.succeeded} of {s.total} hosts succeeded")
    else (Log.Level.error, s!"{s.failures} of {s.total} hosts failed")
  failed ++ cancelled ++ [last]

end Outcomes

/-- Pass or fail, with the error that a failed dispatch ends in. -/
structure Verdict where
  ok : Bool
  status : Status
  error : Option Failure

namespace Verdict

/-- The verdict on some outcomes; the error carries the code given. -/
def ofOutcomes (m : Outcomes) (code : UInt32) : Verdict :=
  let error := m.diagnostic?.map fun text => Failure.coded code (.message text)
  ⟨error.isNone, m.status, error⟩

def result (v : Verdict) : Except Failure Unit :=
  match v.error with
  | some e => .error e
  | none => .ok ()

end Verdict

end Fanout
