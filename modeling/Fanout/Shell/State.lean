import Fanout.FileTree
import Fanout.Shell.Grammar

/-!
# The state of a shell

What a shell knows and has open: files, variables, positional parameters, and channels under their
numbers. An act changes the state and either goes on or stops the shell, or a loop or function in
it.
-/
namespace Fanout.Shell

structure Variable where
  value : Octets
  exported : Bool

/-- What a descriptor is open on. -/
inductive Channel where
  /-- A text that is read. -/
  | source (index : Nat)
  /-- A text that is collected. -/
  | sink (index : Nat)
  /-- A file that is written to at its end. -/
  | file (place : List String)
  | nothing

structure State where
  files : FileTree
  workDir : String
  sources : List Octets
  sinks : List Octets
  channels : List (Nat × Channel)
  bindings : List (String × Variable)
  functions : List (String × Command)
  /-- The name faults are reported under. -/
  name : String
  arguments : List Octets
  processId : Nat
  status : Nat
  /-- The status of the last command whose output was put into a word. -/
  inserted : Option Nat
  /-- The line of the command that is running. -/
  line : Nat
  /-- Whether a failing command ends the shell. -/
  exitsOnError : Bool
  /-- Whether an unset parameter is a fault. -/
  refusesUnset : Bool
  /-- Whether the outcome of the running command is asked for. -/
  tested : Bool
  /-- How many loops are running. -/
  loops : Nat
  /-- Inside a function, the variables it has put aside. -/
  hidden : Option (List (String × Option Variable))
  /-- What is run when the shell ends. -/
  farewell : Option Octets
  /-- The command or file on whose behalf commands run, which faults name. -/
  context : Option String

/-- Why a shell does not go on. -/
inductive Stop where
  | exit
  | signal (number : Nat)
  /-- Leaves loops; the outermost of them goes on if `again`. -/
  | leave (again : Bool) (depth : Nat)
  | functionEnd
  /-- The shell runs for too long. -/
  | spent

abbrev Act := ExceptT Stop (StateM State)

/-- The number under which a shell knows itself. -/
def ownProcessId : Nat := 4711

namespace State

/-- A shell just started, with nothing to read. -/
def fresh (files : FileTree) (workDir : String) (vars : List (String × String)) : State where
  files := files
  workDir := workDir
  sources := [[]]
  sinks := [[], []]
  channels := [(0, .source 0), (1, .sink 0), (2, .sink 1)]
  bindings := (vars.filter fun v => isName v.1.toList).map fun v =>
    (v.1, ⟨Octets.ofText v.2, true⟩)
  functions := []
  name := "sh"
  arguments := []
  processId := ownProcessId
  status := 0
  inserted := none
  line := 1
  exitsOnError := false
  refusesUnset := false
  tested := false
  loops := 0
  hidden := none
  farewell := none
  context := none

/-- The value of a variable. -/
def var? (s : State) (name : String) : Option Octets :=
  (s.bindings.lookup name).map Variable.value

def setVar (s : State) (name : String) (value : Octets) : State :=
  match s.bindings.lookup name with
  | some _ =>
    { s with bindings := s.bindings.map fun v =>
        if v.1 == name then (name, { v.2 with value := value }) else v }
  | none => { s with bindings := s.bindings ++ [(name, ⟨value, false⟩)] }

def markExported (s : State) (name : String) : State :=
  { s with bindings := s.bindings.map fun v =>
      if v.1 == name then (name, { v.2 with exported := true }) else v }

def unset (s : State) (name : String) : State :=
  { s with bindings := s.bindings.filter fun v => v.1 != name }

/-- The variables that programs find. -/
def environment (s : State) : List (String × Octets) :=
  (s.bindings.filter fun v => v.2.exported).map fun v => (v.1, v.2.value)

/-- The characters that separate fields. -/
def separators (s : State) : Octets := (s.var? "IFS").getD [' ', '\t', '\n']

end State

namespace Act

/-- Changes one text of a list. -/
def setAt (texts : List Octets) (i : Nat) (f : Octets → Octets) : List Octets :=
  texts.mapIdx fun j t => if j = i then f t else t

/-- Writes to a descriptor. -/
def write (descriptor : Nat) (text : Octets) : Act Unit :=
  modify fun s => match s.channels.lookup descriptor with
    | some (.sink i) => { s with sinks := setAt s.sinks i (· ++ text) }
    | some (.file place) =>
      match s.files.append "/" ("/" ++ "/".intercalate place) (Octets.toBytes text) with
      | .ok files => { s with files := files }
      | .error _ => s
    | _ => s

/-- Reads all there is to read. -/
def readAll : Act Octets := do
  let s ← get
  match s.channels.lookup 0 with
  | some (.source i) =>
    set { s with sources := setAt s.sources i fun _ => [] }
    return s.sources.getD i []
  | _ => return []

/-- Reads a line, without the newline; nothing at the end. -/
def readLine : Act (Option (Octets × Bool)) := do
  let s ← get
  match s.channels.lookup 0 with
  | some (.source i) =>
    let text := s.sources.getD i []
    let line := text.takeWhile (· ≠ '\n')
    set { s with sources := setAt s.sources i fun t => t.drop (line.length + 1) }
    return if text.isEmpty then none else some (line, line.length < text.length)
  | _ => return none

def finish (status : Nat) : Act Unit :=
  modify fun s => { s with status := status }

/-- Reports a fault, under the shell's name, the line and what it arose in. -/
def complainIn (context : Option String) (text : String) : Act Unit := do
  let s ← get
  let place := context.elim "" fun c => c ++ ": "
  write 2 (Octets.ofText (s.name ++ s!": {s.line}: " ++ place ++ text ++ "\n"))

/-- Reports a fault. -/
def complain (text : String) : Act Unit := do
  complainIn (← get).context text

/-- Reports a fault of a command, which then fails. -/
def failWith (status : Nat) (text : String) : Act Nat := do
  complain text
  return status

/-- Reports a fault that ends the shell. -/
def fatal {α : Type} (text : String) : Act α := do
  complain text
  finish 2
  throw .exit

/-- Opens a channel under a descriptor. -/
def connect (descriptor : Nat) (channel : Channel) : Act Unit :=
  modify fun s => { s with channels :=
    (descriptor, channel) :: s.channels.filter fun c => c.1 != descriptor }

/-- A new text to read. -/
def newSource (text : Octets) : Act Channel := do
  let s ← get
  set { s with sources := s.sources ++ [text] }
  return .source s.sources.length

/-- A new text to collect, and where to find it. -/
def newSink : Act Nat := do
  let s ← get
  set { s with sinks := s.sinks ++ [[]] }
  return s.sinks.length

/-- Runs an act on behalf of a command or file. -/
def onBehalf {α : Type} (name : String) (act : Act α) : Act α := fun s =>
  let (r, s') := act { s with context := some name }
  (r, { s' with context := s.context })

/-- Runs an act and puts the channels back, whatever comes of it. -/
def withChannels {α : Type} (act : Act α) : Act α := fun s =>
  let (r, s') := act s
  (r, { s' with channels := s.channels })

/-- Puts a variable back to what it was. -/
def restore (s : State) (name : String) (v : Option Variable) : State :=
  let others := s.bindings.filter fun w => w.1 != name
  match v with
  | some v => { s with bindings := others ++ [(name, v)] }
  | none => { s with bindings := others }

/-- Runs an act apart: of what it changes, only the world outside the shell stays changed. -/
def apart (act : Act Unit) : Act Unit := fun s =>
  let (r, s') := act { s with farewell := none }
  let outside := { s with
    files := s'.files, sources := s'.sources, sinks := s'.sinks, status := s'.status }
  match r with
  | .error (.signal n) => (.error (.signal n), outside)
  | .error .spent => (.error .spent, outside)
  | _ => (.ok (), outside)

/-- What is said of a process that a signal has ended. -/
def signalTexts : List (Nat × String) :=
  [(1, "Hangup"), (3, "Quit"), (4, "Illegal instruction"), (5, "Trace/breakpoint trap"),
    (6, "Aborted"), (7, "Bus error"), (8, "Floating point exception"), (9, "Killed"),
    (10, "User defined signal 1"), (11, "Segmentation fault"), (12, "User defined signal 2"),
    (14, "Alarm clock"), (15, "Terminated")]

/-- Runs an act as a process of its own, which a signal ends for itself alone. -/
def process (act : Act Unit) : Act Unit := fun s =>
  let (r, s') := apart (do
    modify fun s => { s with processId := s.processId + 1 }
    act) s
  match r with
  | .error (.signal n) =>
    let said := signalTexts.lookup n
    let (_, s'') := write 2 (said.elim [] fun t => Octets.ofText (t ++ "\n")) s'
    (.ok (), { s'' with status := 128 + n })
  | r => (r, s')

end Act

end Fanout.Shell
