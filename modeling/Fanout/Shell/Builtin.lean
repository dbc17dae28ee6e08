import Fanout.Shell.Expansion
import Fanout.Shell.Utility

/-!
# Commands of the shell itself

What changes the shell: its directory, variables, parameters and options, and what ends it, a loop
or a function. A fault in one of the special commands ends the shell.
-/
namespace Fanout.Shell.Builtin

open Act

/-- Reports a fault of a command. -/
def fault (name text : String) : Act Unit := complainIn (some name) text

/-- A fault of a special command. -/
def fatalFault {α : Type} (name text : String) : Act α := onBehalf name (fatal text)

/-- A number without a sign. -/
def number (name : String) (w : Octets) : Act Nat :=
  if w ≠ [] ∧ w.all Char.isDigit then return Format.natOf w
  else fatalFault name ("Illegal number: " ++ w.toText)

def exit (args : List Octets) : Act Nat := do
  if let w :: _ := args then finish (← number "exit" w)
  throw .exit

def back (args : List Octets) : Act Nat := do
  if let w :: _ := args then finish (← number "return" w)
  throw .functionEnd

/-- Leaves loops, of which the outermost may go on. -/
def leave (name : String) (again : Bool) (args : List Octets) : Act Nat := do
  let depth ← match args with
    | w :: _ => number name w
    | [] => pure 1
  let depth := min depth (← get).loops
  if depth = 0 then return 0 else throw (.leave again depth)

def changeDirectory (args : List Octets) : Act Nat := do
  let s ← get
  let target := match args with
    | ['-'] :: _ => ((s.var? "OLDPWD").getD []).toText
    | w :: _ => w.toText
    | [] => ((s.var? "HOME").getD []).toText
  match s.files.find s.workDir target, s.files.resolve s.workDir target with
  | .ok .dir, .ok place => do
    let dir := "/" ++ "/".intercalate place
    set (({ s with workDir := dir }.setVar "PWD" (Octets.ofText dir)).setVar "OLDPWD"
      (Octets.ofText s.workDir))
    if args.head? = some ['-'] then write 1 (Octets.ofText (dir ++ "\n"))
    return 0
  | _, _ => do
    fault "cd" ("can't cd to " ++ target)
    return 2

/-- A name, and the value behind an equals sign. -/
def assignment (w : Octets) : String × Option Octets :=
  let name := w.takeWhile (· ≠ '=')
  match w.drop name.length with
  | _ :: value => (Octets.toText name, some value)
  | [] => (Octets.toText name, none)

/-- Sets variables, and lets programs find them if they are to be exported. -/
def declare (command : String) (exported : Bool) (args : List Octets) : Act Nat := do
  for w in args do
    let (name, value) := assignment w
    if !isName name.toList then
      if w ≠ ['-', 'p'] then fatalFault command (name ++ ": bad variable name")
    else
      modify fun s =>
        let s := match value with
          | some v => s.setVar name v
          | none => s
        if exported then s.markExported name else s
  return 0

/-- Puts variables aside, up to the end of the function, and declares them anew. -/
def hide (args : List Octets) : Act Nat := do
  if (← get).hidden.isNone then fatalFault "local" "not in a function"
  for w in args do
    let name := (assignment w).1
    modify fun s => { s with hidden := s.hidden.map ((name, s.bindings.lookup name) :: ·) }
  declare "local" false args

/-- Notes what is to be run when the shell ends. Signals end it in any case. -/
def onEnd (args : List Octets) : Act Nat := do
  let ofEnd := (args.drop 1).any fun w => w = ['0'] ∨ w = "EXIT".toList
  match args with
  | command :: _ :: _ => if ofEnd then
      modify fun s => { s with
        farewell := if command = ['-'] then none else some command }
  | _ => pure ()
  return 0

def unset (args : List Octets) : Act Nat := do
  let ofFunctions := args.head? = some ['-', 'f']
  for w in args do
    if w ≠ ['-', 'f'] ∧ w ≠ ['-', 'v'] then
      if !isName w then fatalFault "unset" (w.toText ++ ": bad variable name")
      modify fun s =>
        if ofFunctions then
          { s with functions := s.functions.filter fun f => f.1 != w.toText }
        else s.unset w.toText
  return 0

/-- Sets options and positional parameters. -/
def configure : List Octets → Act Nat
  | [] => return 0
  | ['-', '-'] :: rest => do
    modify fun s => { s with arguments := rest }
    return 0
  | (sign :: flags) :: rest =>
    if (sign = '-' ∨ sign = '+') ∧ flags ≠ [] then do
      let on := sign = '-'
      modify fun s =>
        { s with
          exitsOnError := if 'e' ∈ flags then on else s.exitsOnError
          refusesUnset := if 'u' ∈ flags then on else s.refusesUnset }
      configure rest
    else do
      modify fun s => { s with arguments := (sign :: flags) :: rest }
      return 0
  | args => do
    modify fun s => { s with arguments := args }
    return 0

def shift (args : List Octets) : Act Nat := do
  let n ← match args with
    | w :: _ => number "shift" w
    | [] => pure 1
  let s ← get
  if n ≤ s.arguments.length then
    set { s with arguments := s.arguments.drop n }
    return 0
  else fatalFault "shift" "can't shift that many"

/-- Distributes the fields of a line over names, of which the last takes what is left. -/
def distribute (separators : Octets) : List String → Octets → Act Unit
  | [], _ => return
  | [name], text => do
    let blank := fun c => c ∈ separators && Segment.isWhite c
    let value := ((text.dropWhile blank).reverse.dropWhile blank).reverse
    modify fun s => s.setVar name value
  | name :: names, text => do
    let blank := fun c => c ∈ separators && Segment.isWhite c
    let text := text.dropWhile blank
    let value := text.takeWhile fun c => c ∉ separators
    modify fun s => s.setVar name value
    let rest := (text.drop value.length).dropWhile blank
    let rest := match rest with
      | c :: cs => if c ∈ separators then cs else rest
      | [] => []
    distribute separators names rest

def dropBackslashes : Octets → Octets
  | '\\' :: c :: cs => c :: dropBackslashes cs
  | c :: cs => c :: dropBackslashes cs
  | [] => []

def read (args : List Octets) : Act Nat := do
  let raw := args.head? = some ['-', 'r']
  let names := (if raw then args.drop 1 else args).map Octets.toText
  let separators := (← get).separators
  match ← readLine with
  | none => do
    distribute separators names []
    return 1
  | some (line, complete) => do
    distribute separators names (if raw then line else dropBackslashes line)
    return if complete then 0 else 1

/-- Signals by name. -/
def signalNames : List (String × Nat) :=
  [("HUP", 1), ("INT", 2), ("QUIT", 3), ("ILL", 4), ("TRAP", 5), ("ABRT", 6), ("BUS", 7),
    ("FPE", 8), ("KILL", 9), ("USR1", 10), ("SEGV", 11), ("USR2", 12), ("PIPE", 13), ("ALRM", 14),
    ("TERM", 15), ("CHLD", 17), ("CONT", 18), ("STOP", 19), ("TSTP", 20),
    ("TTIN", 21), ("TTOU", 22), ("URG", 23), ("XCPU", 24), ("XFSZ", 25), ("VTALRM", 26),
    ("PROF", 27), ("WINCH", 28), ("IO", 29), ("PWR", 30), ("SYS", 31)]

/-- Signals that a process does not notice unless it asks to. -/
def harmlessSignals : List Nat := [0, 17, 18, 23, 28]

/-- The number of a signal, given as such or by name. -/
def signalOf? (w : Octets) : Option Nat :=
  if w ≠ [] ∧ w.all Char.isDigit then
    if Format.natOf w < 65 then some (Format.natOf w) else none
  else
    let name := (String.ofList w).toUpper
    let name := if name.startsWith "SIG" then String.ofList (name.toList.drop 3) else name
    signalNames.lookup name

/-- Sends a signal. The only process there is to be found is the shell. -/
def send (signal : Nat) (target : Octets) : Act Nat := do
  match Octets.toInt? target with
  | some n =>
    if n = (← get).processId then
      if signal ∈ harmlessSignals then return 0 else throw (.signal signal)
    else
      fault "kill" "No such process"
      return 1
  | none => do
    fault "kill" ("Illegal number: " ++ target.toText)
    return 2

def kill (args : List Octets) : Act Nat := do
  let toTarget := fun (signal : Option Nat) (w : Octets) (targets : List Octets) => do
    match signal, targets with
    | some n, t :: _ => send n t
    | none, _ => do
      fault "kill" ("invalid signal number or name: " ++ w.toText)
      return 2
    | _, [] => do
      fault "kill" "Usage: kill [-s sigspec | -signum | -sigspec] [pid | job]..."
      return 2
  match args with
  | ['-', 's'] :: name :: targets => toTarget (signalOf? name) name targets
  | ['-', '-'] :: targets => toTarget (some 15) [] targets
  | ('-' :: name) :: targets => toTarget (signalOf? name) name targets
  | targets => toTarget (some 15) [] targets

/-- Tells which permissions new files lack; they cannot be changed. -/
def umask (args : List Octets) : Act Nat := do
  if args.isEmpty then write 1 "0022\n".toList
  return 0

/-- Commands whose faults end the shell, and whose assignments stay. -/
def special : List String :=
  ["break", ":", "continue", ".", "eval", "exec", "exit", "export", "readonly", "return", "set",
    "shift", "times", "trap", "unset"]

/-- The commands by name, but for those that run others. -/
def table : List (String × (List Octets → Act Nat)) :=
  [(":", fun _ => return 0), ("true", fun _ => return 0), ("false", fun _ => return 1),
    ("echo", Utility.echo), ("printf", Utility.printf (fault "printf")),
    ("test", Utility.test (fault "test") false), ("[", Utility.test (fault "[") true),
    ("pwd", fun _ => Utility.pwd), ("cd", changeDirectory), ("exit", exit), ("return", back),
    ("break", leave "break" false), ("continue", leave "continue" true),
    ("export", declare "export" true), ("readonly", declare "readonly" false),
    ("local", hide), ("unset", unset), ("set", configure), ("shift", shift),
    ("read", read), ("kill", kill), ("wait", fun _ => return 0), ("trap", onEnd),
    ("umask", umask), ("times", fun _ => return 0)]

end Fanout.Shell.Builtin
