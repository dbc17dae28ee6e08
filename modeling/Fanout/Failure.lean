import Fanout.Fault
import Fanout.OsError
import Fanout.Text.Blank

/-!
# Failures

Why an operation or a command failed: a cause, the causes behind it, and what each layer says.
A failure may carry a code, which a program turns into its exit status; the code that counts is
that of the outermost layer that has one.
-/
namespace Fanout

inductive Failure where
  /-- A plain text. -/
  | message (text : String)
  /-- A text about what was being done, in front of a failure. -/
  | context (text : String) (cause : Failure)
  /-- A failure under a numeric code. -/
  | coded (code : UInt32) (cause : Failure)
  /-- A command that ended in a failing status, or by a signal if there is none. -/
  | exit (status : Option Int) (stderr : String)
  /-- A program that could not be started. -/
  | spawn (program : String) (cause : OsError)
  | os (cause : OsError)
  | fault (cause : Fault)
  deriving DecidableEq

namespace Failure

/-- What is said of a command that failed: its status, and its error output if that is not blank. -/
def exitText (status : Option Int) (stderr : String) : String :=
  let head := match status with
    | some code => s!"exited with status {code}"
    | none => "terminated by signal"
  let tail := Text.trim stderr
  if tail.isEmpty then head else head ++ ": " ++ tail

/-- What the outermost layer says. -/
def display : Failure → String
  | .message text => text
  | .context text _ => text
  | .coded code cause => s!"ERROR[{code.toNat}] " ++ cause.display
  | .exit status stderr => exitText status stderr
  | .spawn program cause => s!"failed to execute {program}: " ++ cause.message
  | .os cause => cause.message
  | .fault cause => cause.message

/-- The failure and the causes behind it, from the outside in. -/
def layers : Failure → List Failure
  | .context text cause => .context text cause :: cause.layers
  | .coded code cause => .coded code cause :: cause.layers
  | .spawn program cause => [.spawn program cause, .os cause]
  | f => [f]

/-- What the layers say, one after the other. -/
def chain (f : Failure) : String :=
  ": ".intercalate (f.layers.map display)

/-- The code and the cause of the failure itself, seen through contexts. -/
def coded? : Failure → Option (UInt32 × Failure)
  | .context _ cause => cause.coded?
  | .coded code cause => some (code, cause)
  | _ => none

/-- The command that failed, seen through contexts but not through a code. -/
def exit? : Failure → Option (Option Int × String)
  | .context _ cause => cause.exit?
  | .exit status stderr => some (status, stderr)
  | _ => none

/-- The code of one layer. -/
def layerCode? : Failure → Option UInt32
  | .coded code _ => some code
  | _ => none

/-- The code that decides on the exit status: that of the first layer that has one. -/
def code? (f : Failure) : Option UInt32 :=
  f.layers.findSome? layerCode?

/-- The one line a program prints about a failure. A code shows its cause already, so only the
cause's own layers follow. -/
def render (f : Failure) : String :=
  match f.coded? with
  | some (code, cause) => s!"ERROR[{code.toNat}] " ++ cause.chain
  | none => f.chain

end Failure

/-- The exit status of a code. Codes above 255 all give 255, so no failure becomes a success. -/
def exitStatus (code : UInt32) : UInt8 :=
  if code ≤ 255 then code.toUInt8 else 255

/-- The exit status of a program that ends in a failure. -/
def Failure.exitStatus (f : Failure) : UInt8 :=
  f.code?.elim 1 Fanout.exitStatus

end Fanout
