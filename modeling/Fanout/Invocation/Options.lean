import Fanout.Environment
import Fanout.Invocation.UsageError

/-!
# Options of one part

The values given so far in one part of the command line. A switch or a value may be given once
in a part; what asks for more output may be repeated and is counted, up to 255.
-/
namespace Fanout

structure Options where
  verbosity : Option Nat
  quiet : Bool
  config : Option String
  logDir : Option String
  logLevel : Option Log.Threshold
  scope : Option Target
  coordinator : Bool
  mirrors : Bool
  jobs : Option UInt64
  failFast : Bool
  retries : Option UInt32
  onThisMachine : Bool
  json : Bool
  shell : Option ScriptShell
  /-- The words of the command to run. -/
  words : List String
  deriving DecidableEq

/-- The digits of a number; leading zeros are allowed. -/
def digitsValue? (cs : List Char) : Option Nat :=
  if cs ≠ [] ∧ cs.all Char.isDigit then
    some (cs.foldl (fun n c => 10 * n + (c.toNat - '0'.toNat)) 0)
  else none

/-- A number, which may have a plus sign. -/
def natValue? (s : String) : Option Nat :=
  match s.toList with
  | '+' :: cs => digitsValue? cs
  | cs => digitsValue? cs

/-- A number with or without a sign. -/
def intValue? (s : String) : Option Int :=
  match s.toList with
  | '-' :: cs => (digitsValue? cs).map fun n => -(n : Int)
  | _ => (natValue? s).map Int.ofNat

namespace Options

def none : Options :=
  ⟨.none, false, .none, .none, .none, .none, false, false, .none, false, .none, false, false, .none,
    []⟩

/-- Whether a switch or a value has been given. -/
def has (o : Options) : Parameter → Bool
  | .verbose => o.verbosity.isSome
  | .quiet => o.quiet
  | .config => o.config.isSome
  | .logDir => o.logDir.isSome
  | .logLevel => o.logLevel.isSome
  | .scope => o.scope.isSome
  | .coordinator => o.coordinator
  | .mirrors => o.mirrors
  | .jobs => o.jobs.isSome
  | .failFast => o.failFast
  | .retries => o.retries.isSome
  | .onThisMachine => o.onThisMachine
  | .json => o.json
  | .shell => o.shell.isSome
  | .help => false
  | .version => false

/-- The value read, or an error if there is none. -/
def valued {α : Type} (value : Option α) (e : UsageError) : Except UsageError α :=
  match value with
  | some a => .ok a
  | .none => .error e

/-- A path, which is not empty. -/
def pathValue (p : Parameter) (s : String) : Except UsageError String :=
  if s.isEmpty then .error (.badValue p s) else .ok s

/-- Sets the value of a parameter that takes one. -/
def put (o : Options) (p : Parameter) (s : String) : Except UsageError Options :=
  match p with
  | .config => do return { o with config := some (← pathValue p s) }
  | .logDir => do return { o with logDir := some (← pathValue p s) }
  | .logLevel => do
    return { o with logLevel := some (← valued (Log.Threshold.ofName? s) (.badValue p s)) }
  | .scope => do return { o with scope := some (← valued (Target.ofName? s) (.badValue p s)) }
  | .jobs => do
    let n ← valued (natValue? s) (.badNumber p s)
    if n < UInt64.size then return { o with jobs := some n.toUInt64 }
    else .error (.badNumber p s)
  | .retries => do
    let n ← valued (intValue? s) (.badNumber p s)
    if 0 ≤ n ∧ n < UInt32.size then return { o with retries := some n.toNat.toUInt32 }
    else .error (.badNumber p s)
  | .shell => do return { o with shell := some (← valued (ScriptShell.ofName? s) (.badValue p s)) }
  | p => .error (.superfluousValue p s)

/-- Sets a parameter that has no value. -/
def switchOn (o : Options) (p : Parameter) : Options :=
  match p with
  | .verbose => { o with verbosity := some (min 255 (o.verbosity.getD 0 + 1)) }
  | .quiet => { o with quiet := true }
  | .coordinator => { o with coordinator := true }
  | .mirrors => { o with mirrors := true }
  | .failFast => { o with failFast := true }
  | .onThisMachine => { o with onThisMachine := true }
  | .json => { o with json := true }
  | _ => o

/-- Gives a value on the command line. -/
def give (o : Options) (p : Parameter) (s : String) : Except UsageError Options :=
  if o.has p then .error (.repeated p) else o.put p s

/-- Gives a switch on the command line. -/
def toggle (o : Options) (p : Parameter) : Except UsageError Options :=
  if p ≠ .verbose ∧ o.has p then .error (.repeated p) else .ok (o.switchOn p)

/-- Takes a parameter from the environment unless it is given. -/
def fillOne (env : Environment) (o : Options) (p : Parameter) : Except UsageError Options :=
  match p.envName?.bind env.get? with
  | some value => if o.has p then .ok o else o.put p value
  | .none => .ok o

/-- Takes what is not given from the environment. -/
def fill (o : Options) (env : Environment) : Except UsageError Options :=
  [Parameter.logDir, .logLevel].foldlM (fillOne env) o

/-- The options of a command over those before it. -/
def overriding (inner outer : Options) : Options :=
  { inner with
    verbosity := inner.verbosity.orElse fun _ => outer.verbosity
    quiet := inner.quiet || outer.quiet
    config := inner.config.orElse fun _ => outer.config
    logDir := inner.logDir.orElse fun _ => outer.logDir
    logLevel := inner.logLevel.orElse fun _ => outer.logLevel }

/-- The scope of a command. -/
def members (o : Options) : Scope :=
  ⟨o.scope.getD .segments, o.coordinator, o.mirrors⟩

def dispatch (o : Options) : DispatchOptions :=
  ⟨o.jobs, o.failFast, o.retries⟩

/-- The command with its options, if it has what it needs. -/
def request (o : Options) : CommandName → Except UsageError Request
  | .run =>
    if o.words.isEmpty then .error (.missingArgument (some .run))
    else .ok (.run o.words o.members o.dispatch o.onThisMachine o.json)
  | .ping => .ok (.ping o.members o.dispatch o.json)
  | .hosts => .ok (.hosts o.members o.json)
  | .completions => (valued o.shell (.missingArgument (some .completions))).map .completions

/-- The invocation of a command. -/
def invocation (o : Options) (request : Request) : Invocation :=
  ⟨o.verbosity.getD 0, o.quiet, o.config, o.logDir, o.logLevel.getD (.upTo .debug), request⟩

end Options

end Fanout
