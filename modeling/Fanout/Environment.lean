/-!
# The environment

Variables by name, and what else a process finds around it: the directory it works in, and the home
directory that the account has on record.
-/
namespace Fanout

structure Environment where
  vars : List (String × String)
  /-- The directory relative paths start from, absolute. -/
  workDir : String
  /-- The home directory of the account, which counts if the variable is empty or unset. -/
  accountHome : Option String

namespace Environment

def get? (env : Environment) (name : String) : Option String :=
  env.vars.lookup name

/-- Sets variables over those that are there. -/
def withVars (env : Environment) (vars : List (String × String)) : Environment :=
  { env with vars := vars ++ env.vars.filter fun e => !vars.any fun v => v.1 == e.1 }

def home? (env : Environment) : Option String :=
  match env.get? "HOME" with
  | some home => if home.isEmpty then env.accountHome else some home
  | none => env.accountHome

end Environment

end Fanout
