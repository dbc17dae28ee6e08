/-!
# Outcomes

What became of one host in a dispatch. A host that never ran because the dispatch was cancelled
first counts as a failure and is kept apart from one that ran and failed.
-/
namespace Fanout

inductive Outcome where
  | success (output : String)
  | failed (error : String)
  | cancelled
  deriving DecidableEq, Repr

namespace Outcome

def isSuccess : Outcome → Bool
  | .success _ => true
  | _ => false

/-- A failure of any kind, cancellation included. -/
def isFailure (o : Outcome) : Bool := !o.isSuccess

def isCancelled : Outcome → Bool
  | .cancelled => true
  | _ => false

def output? : Outcome → Option String
  | .success output => some output
  | _ => none

/-- The error of a host that ran and failed. -/
def error? : Outcome → Option String
  | .failed error => some error
  | _ => none

/-- The kind of an outcome, in a word. -/
def kind : Outcome → String
  | .success _ => "success"
  | .failed _ => "failed"
  | .cancelled => "cancelled"

end Outcome

end Fanout
