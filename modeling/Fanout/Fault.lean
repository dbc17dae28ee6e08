/-!
# Faults of a dispatch

What keeps a dispatch from starting or from counting its outcomes. None of these is a host that
failed: that is an outcome.
-/
namespace Fanout

inductive Fault where
  /-- A policy asks for no execution at a time. -/
  | noConcurrency
  /-- Two hosts of one dispatch have one id. -/
  | duplicateHost (id : String)
  /-- A host's outcome was recorded twice. -/
  | duplicateRecord (id : String)
  /-- An outcome was recorded for a host outside the dispatch. -/
  | unknownHost (id : String)
  /-- The outcomes were asked for before every host had one. -/
  | incomplete (expected recorded : Nat)
  deriving DecidableEq, Repr

namespace Fault

def message : Fault → String
  | .noConcurrency => "max concurrency must be at least 1"
  | .duplicateHost id => s!"duplicate host identifier: {id}"
  | .duplicateRecord id => s!"outcome for host {id} recorded more than once"
  | .unknownHost id => s!"outcome recorded for unknown host: {id}"
  | .incomplete expected recorded =>
    s!"result collection incomplete: expected {expected} hosts, recorded {recorded}"

/-- Whether the bookkeeping is broken, rather than the request wrong. -/
def isInternal : Fault → Bool
  | .duplicateRecord _ | .unknownHost _ | .incomplete _ _ => true
  | .noConcurrency | .duplicateHost _ => false

end Fault

end Fanout
