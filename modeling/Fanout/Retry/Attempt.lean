import Fanout.Decimal.Notation
import Fanout.Operation
import Fanout.Retry.Delay

/-!
# Making attempts again

An operation that is made again while it fails, its failure is of the kind that is worth another
attempt, and attempts are left. The last attempt's answer is the answer; every attempt before it
leaves a warning.
-/
namespace Fanout

namespace RetryPlan

/-- The warning after a failed attempt that is made again. -/
def warning (plan : RetryPlan) (host : Host) (attempt : Nat) (cause : Failure) (wait : Span) :
    Log.Record :=
  ⟨.warn, Log.Topic.retry,
    s!"{host.id}: attempt {attempt + 1}/{plan.maxAttempts.toNat} failed: " ++ cause.chain ++
      ". Retrying in " ++ Decimal.onePlace wait.toSeconds ++ "s..."⟩

/-- Makes attempt number `attempt`, and up to `left` more. -/
def attemptFrom {σ : Type} (plan : RetryPlan) (worthIt : Failure → Bool) (op : Operation σ)
    (host : Host) : Nat → Nat → σ → Execution × σ
  | left, attempt, world =>
    let (e, world') := op host world
    match left, e.answer with
    | left + 1, .failure cause =>
      if worthIt cause then
        match plan.delay attempt.toUInt32 with
        | .error x => (⟨.panic (some x.message), e.log⟩, world')
        | .ok wait =>
          let (e', world'') := attemptFrom plan worthIt op host left (attempt + 1) world'
          (⟨e'.answer, e.log ++ [plan.warning host attempt cause wait] ++ e'.log⟩, world'')
      else (e, world')
    | _, _ => (e, world')

end RetryPlan

/-- An operation whose failures are made again as a plan says. -/
def Operation.retrying {σ : Type} (op : Operation σ) (plan : RetryPlan)
    (worthIt : Failure → Bool) : Operation σ := fun host world =>
  plan.attemptFrom worthIt op host (plan.maxAttempts.toNat - 1) 0 world

end Fanout
