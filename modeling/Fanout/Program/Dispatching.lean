import Fanout.Config.Basic
import Fanout.Console.Outcomes
import Fanout.Dispatch.Run
import Fanout.Invocation.Basic
import Fanout.Outcome.Codec
import Fanout.Program.ExitCode
import Fanout.Program.Transcript

/-!
# Dispatching an operation from the command line

The hosts of a scope are selected, the operation is dispatched to them, and the outcomes are shown
as text or as JSON, or not at all. Any host that failed makes the command fail.
-/
namespace Fanout

/-- How results are shown. -/
structure Display where
  quiet : Bool
  json : Bool
  colors : Bool
  /-- Whether the error output is a terminal, which is told of failures as they happen. -/
  terminal : Bool

namespace Display

/-- Whether failures are told as they happen. -/
def tellsFailures (d : Display) : Bool :=
  d.terminal && !d.quiet && !d.json

/-- What an event of a dispatch says. -/
def eventNotes (d : Display) : Dispatch.Event → Transcript
  | .logged r => [.logged r]
  | .completed h o =>
    match o.error? with
    | some e =>
      if d.tellsFailures then [.diagnostic (Console.failureNotice d.colors h.id e)] else []
    | none => []
  | _ => []

/-- The outcomes of a dispatch. -/
def resultNotes (d : Display) (hosts : HostSet) (m : Outcomes) (label : String) : Transcript :=
  if d.json then [.output (m.reportJson.pretty ++ "\n")]
  else if d.quiet then []
  else [.output (Console.outcomes d.colors hosts m label)]

end Display

/-- What a dispatch from the command line leaves. -/
structure Executed (σ : Type) where
  result : Except Failure Outcomes
  transcript : Transcript
  world : σ

/-- The failure of a selection. -/
def selectionFailure (f : Fault) : Failure :=
  .coded ExitCode.configInvalid (.fault f)

/-- The failure of a dispatch. -/
def dispatchFailure (f : Fault) : Failure :=
  .coded (if f.isInternal then ExitCode.engineFault else ExitCode.configInvalid) (.fault f)

/-- Selects the hosts of a scope, runs an operation on them and shows the outcomes. -/
def execute {σ : Type} (display : Display) (config : Config) (scope : Scope)
    (options : DispatchOptions) (pick : Dispatch.Schedule) (op : Operation σ) (label : String)
    (world : σ) : Executed σ :=
  match config.cluster.select scope with
  | .error f => ⟨.error (selectionFailure f), [], world⟩
  | .ok hosts =>
    let policy := config.policy options.jobs options.failFast
    let d := Dispatch.run policy hosts pick op world true
    let told := d.journal.flatMap display.eventNotes
    match d.result with
    | .error f => ⟨.error (dispatchFailure f), told, d.world⟩
    | .ok m => ⟨.ok m, told ++ display.resultNotes hosts m label, d.world⟩

namespace Executed

/-- How the command ends: the outcomes' own failure, if not every host succeeded. -/
def finish {σ : Type} (e : Executed σ) : Except Failure Unit := do
  let m ← e.result
  (Verdict.ofOutcomes m ExitCode.hostsFailed).result

end Executed

end Fanout
