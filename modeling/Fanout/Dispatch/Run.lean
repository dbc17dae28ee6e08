import Fanout.Dispatch.Schedule
import Fanout.Outcome.Report

/-!
# Dispatching

Running one operation on every host of a set. A host that fails is an outcome and no fault of the
dispatch; faults are a policy that allows no execution, and broken bookkeeping.
-/
namespace Fanout

/-- What a dispatch leaves: its result, what was seen of it, and the world after it. -/
structure Dispatched (σ : Type) where
  result : Except Fault Outcomes
  journal : List Dispatch.Event
  world : σ

namespace Dispatch

/-- The outcomes of a pool whose workers have left their loops. -/
def State.outcomes {n : Nat} (s : State n) : Except Fault Outcomes :=
  match s.fault with
  | some f => .error f
  | none => s.collector.snapshot

/-- The completion report as log records. -/
def reportEvents (m : Outcomes) : List Event :=
  m.report.map fun line => .logged ⟨line.1, Log.Topic.report, line.2⟩

/-- Runs an operation once against every host. The report goes to the log if `reports`. -/
def run {σ : Type} (policy : Policy) (hosts : HostSet) (pick : Schedule) (op : Operation σ)
    (world : σ) (reports : Bool) : Dispatched σ :=
  if policy.maxConcurrency = 0 then ⟨.error .noConcurrency, [], world⟩
  else if hosts.isEmpty then
    ⟨.ok Outcomes.empty, [debug "dispatch with no hosts, nothing to do"], world⟩
  else
    let n := hosts.size
    let workers := State.poolSize policy n
    let hello := debug <|
      s!"dispatching to {n} hosts with {workers} workers " ++
        s!"(continue_on_error={policy.continueOnError})"
    let (s, world') :=
      drive policy hosts pick op (stepBound n workers) (State.initial policy hosts) world
    let result := s.outcomes
    let report := match result with
      | .ok m => if reports then reportEvents m else []
      | .error _ => []
    ⟨result, [hello, .begun n] ++ s.journal ++ [.ended] ++ report, world'⟩

end Dispatch

namespace Dispatched

/-- The log records of a dispatch. -/
def log {σ : Type} (d : Dispatched σ) : List Log.Record :=
  d.journal.filterMap fun
    | .logged r => some r
    | _ => none

end Dispatched

end Fanout
