import Fanout.Operation
import Fanout.Text.Line
import Fanout.Text.Replace
import Fanout.Text.Utf8

/-!
# Starting programs

A program is started with arguments and some variables of its own, and ends with a status, or by a
signal, leaving what it wrote. Success is status zero; then the answer is the output without the
blanks at its end.
-/
namespace Fanout

structure Command where
  program : String
  args : List String
  /-- Variables set besides those of the environment. -/
  vars : List (String × String)

/-- Whether a NUL stands anywhere in a command; no program can be started with one. -/
def Command.hasNul (c : Command) : Bool :=
  (c.program :: c.args ++ c.vars.flatMap fun v => [v.1, v.2]).any (·.contains '\x00')

/-- How a program ended; without a status it was ended by a signal. -/
structure Completion where
  status : Option Int
  stdout : Bytes
  stderr : Bytes

/-- Starts programs in a world whose states are `σ`. -/
abbrev Launcher (σ : Type) := Command → σ → Except OsError Completion × σ

namespace Completion

def answer (c : Completion) : Answer :=
  if c.status = some 0 then .output (Text.trimEnd (Utf8.decodeLossy c.stdout))
  else .failure (.exit c.status (Utf8.decodeLossy c.stderr))

end Completion

/-- Starts a program and answers with how it ended, or that it could not be started. -/
def Command.run {σ : Type} (c : Command) (launch : Launcher σ) (world : σ) : Answer × σ :=
  if c.hasNul then (.failure (.spawn c.program .nulInCommand), world)
  else
    match launch c world with
    | (.ok completion, world') => (completion.answer, world')
    | (.error e, world') => (.failure (.spawn c.program e), world')

/-- The status with which the ssh client ends when it fails itself. -/
def connectionFailureStatus : Int := 255

/-- How lines start that the ssh client writes when it never reached a shell. -/
def clientDiagnostics : List String :=
  ["ssh:", "kex_exchange_identification:", "Connection closed by",
    "Connection timed out during banner exchange"]

/-- Whether the error output has a line of the ssh client's own. -/
def hasClientDiagnostic (stderr : String) : Bool :=
  (Text.lines stderr).any fun line =>
    clientDiagnostics.any (Text.startsWith (Text.trimStart line))

/-- Whether a failure is the client's failing to reach the host. The status alone is not enough: a
command that ran may end in the same one. A program that could not be started never counts. -/
def Failure.isConnectionError (f : Failure) : Bool :=
  match f.exit? with
  | some (some status, stderr) => status == connectionFailureStatus && hasClientDiagnostic stderr
  | _ => false

end Fanout
