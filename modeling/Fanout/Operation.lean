import Fanout.Failure
import Fanout.Host.Basic
import Fanout.Log.Record
import Fanout.Outcome.Basic

/-!
# Operations

What is run on each host: it answers with an output, ends in a failure, or breaks off. Whatever
it does becomes the host's outcome, so one host never stops the others from having theirs.
-/
namespace Fanout

/-- What one execution of an operation comes to. -/
inductive Answer where
  | output (text : String)
  | failure (cause : Failure)
  /-- The operation broke off, with a message if it left one. -/
  | panic (message : Option String)

/-- The outcome an answer stands for. A failure is told with all its causes. -/
def Answer.outcome : Answer → Outcome
  | .output text => .success text
  | .failure cause => .failed cause.chain
  | .panic message => .failed ("operation panicked: " ++ message.getD "unknown panic")

/-- One execution: the answer, and what was written to the log meanwhile. -/
structure Execution where
  answer : Answer
  log : List Log.Record

/-- An operation on hosts in a world whose states are `σ`. -/
abbrev Operation (σ : Type) := Host → σ → Execution × σ

end Fanout
