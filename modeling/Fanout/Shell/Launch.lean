import Fanout.Command.Launch
import Fanout.Environment
import Fanout.Shell.Evaluation

/-!
# Starting programs in a file tree

A machine that has the shell, its utilities, and the scripts in a file tree. What a program leaves
in the files is there for the next one.
-/
namespace Fanout.Shell

/-- How many steps down a program may take. -/
def depth : Nat := 20000

/-- How a shell that has stopped, or come to its end, ended as a process. -/
def completionOf (stop : Except Stop Unit) (s : State) : Completion :=
  let status := match stop with
    | .error (.signal _) => none
    | .error .spent => none
    | _ => some ((s.status % 256 : Nat) : Int)
  ⟨status, Octets.toBytes (s.sinks.getD 0 []), Octets.toBytes (s.sinks.getD 1 [])⟩

/-- Starts programs with an environment's variables. -/
def launch (env : Environment) : Launcher FileTree := fun command files =>
  let env := env.withVars command.vars
  let searchPath := env.get? "PATH"
  let found := do
    let p ← Program.locate files env.workDir searchPath command.program
    p.resolve files env.workDir searchPath 8 command.args
  match found with
  | .error e => (.error e, files)
  | .ok (program, args) =>
    let start := State.fresh files env.workDir (env.vars ++ [("PWD", env.workDir)])
    let own := if program ∈ Utility.shellNames then command.program else program
    let act := if program ∈ Utility.shellNames then
        Evaluation.shell depth own (args.map Octets.ofText)
      else Evaluation.utility depth program (args.map Octets.ofText)
    let (stop, s) := act start
    (.ok (completionOf stop s), s.files)

end Fanout.Shell
