import Fanout.Environment

/-!
# Whether to use colours

A terminal gets colours unless the environment forbids them; the environment can also ask for them
where there is no terminal. For results, asking beats forbidding; in the log, forbidding does.
-/
namespace Fanout.Console

/-- Whether the environment asks for colours in any case. -/
def forcesColors (env : Environment) : Bool :=
  match env.get? "CLICOLOR_FORCE" with
  | some v => v != "0"
  | none => false

/-- Whether the environment does without colours on a terminal. -/
def declinesColors (env : Environment) : Bool :=
  env.get? "CLICOLOR" == some "0"

/-- Whether results have colours. -/
def colorsResults (env : Environment) (terminal : Bool) : Bool :=
  forcesColors env || ((env.get? "NO_COLOR").isNone && !declinesColors env && terminal)

/-- Whether the log on the console has colours. -/
def colorsLog (env : Environment) (terminal : Bool) : Bool :=
  ((env.get? "NO_COLOR").getD "").isEmpty &&
    (forcesColors env || (!declinesColors env && terminal))

end Fanout.Console
