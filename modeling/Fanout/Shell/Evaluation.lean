import Fanout.Shell.Arithmetic
import Fanout.Shell.Builtin
import Fanout.Shell.Program
import Fanout.Shell.Reader

/-!
# Running shell commands

Commands run one after the other on the state of the shell. Every step down costs fuel, so that a
script that would run forever is stopped.
-/
namespace Fanout.Shell

open Act

namespace Evaluation

/-- A word whose tilde is the home directory. -/
def untilde (s : State) : List Piece → List Piece
  | .literal ('~' :: cs) :: ps =>
    match cs, ps, s.var? "HOME" with
    | [], [], some home => [.quoted home]
    | '/' :: _, _, some home => .quoted home :: .literal cs :: ps
    | _, _, _ => .literal ('~' :: cs) :: ps
  | ps => ps

/-- Runs an act with its outcome asked for or not. -/
def withTested {α : Type} (tested : Bool) (act : Act α) : Act α := fun s =>
  let (r, s') := act { s with tested := tested }
  (r, { s' with tested := s.tested })

/-- Ends a shell that ends when a command fails. -/
def check : Act Unit := do
  let s ← get
  if s.status ≠ 0 ∧ s.exitsOnError ∧ !s.tested then throw .exit

/-- Runs the body of a loop; whether the loop goes on. -/
def turn (body : Act Unit) : Act Bool :=
  fun s =>
    let (r, s') := body { s with loops := s.loops + 1 }
    let s' := { s' with loops := s.loops }
    match r with
    | .ok _ => (.ok true, s')
    | .error (.leave again depth) =>
      if depth ≤ 1 then (.ok again, s') else (.error (.leave again (depth - 1)), s')
    | .error stop => (.error stop, s')

/-- Runs the body of a function with parameters of its own. -/
def calling (args : List Octets) (body : Act Unit) : Act Unit := fun s =>
  let (r, s') := body { s with arguments := args, loops := 0, hidden := some [] }
  let s' := (s'.hidden.getD []).foldl (fun s v => restore s v.1 v.2) s'
  let s' := { s' with arguments := s.arguments, loops := s.loops, hidden := s.hidden }
  match r with
  | .error .functionEnd => (.ok (), s')
  | r => (r, s')

/-- Runs an act with variables that programs find, and puts them back. -/
def withVariables (vars : List (String × Octets)) (act : Act Unit) : Act Unit := fun s =>
  let inner := vars.foldl (fun s v => (s.setVar v.1 v.2).markExported v.1) s
  let (r, s') := act inner
  (r, vars.foldl (fun s' v => restore s' v.1 (s.bindings.lookup v.1)) s')

/-- What is said of a file that cannot be opened. -/
def openFault (doing missing : String) (path : Octets) (e : OsError) : String :=
  let reason := if e = .notFound ∨ e = .notDirectory then missing else Utility.words e
  "cannot " ++ doing ++ " " ++ path.toText ++ ": " ++ reason

/-- Opens a file for writing. -/
def openForOutput (descriptor : Nat) (path : Octets) (append : Bool) : Act Bool := do
  let s ← get
  let name := path.toText
  if name = "/dev/null" then
    connect descriptor .nothing
    return true
  else
    let opened := do
      let files ← if append then s.files.append s.workDir name [] else s.files.write s.workDir name []
      return (files, ← files.resolve s.workDir name)
    match opened with
    | .ok (files, place) => do
      set { s with files := files }
      connect descriptor (.file place)
      return true
    | .error e => do
      complain (openFault "create" "Directory nonexistent" path e)
      return false

/-- Opens a file for reading. -/
def openForInput (descriptor : Nat) (path : Octets) : Act Bool := do
  let s ← get
  let name := path.toText
  let text := if name = "/dev/null" then .ok [] else s.files.read s.workDir name
  match text with
  | .ok bytes => do
    connect descriptor (← newSource (Octets.ofBytes bytes))
    return true
  | .error e => do
    complain (openFault "open" "No such file" path e)
    return false

/-- Opens what another descriptor has open, or closes a descriptor. -/
def duplicate (descriptor : Nat) (target : Octets) : Act Bool := do
  let s ← get
  if target = ['-'] then
    connect descriptor .nothing
    return true
  else match (Octets.toInt? target).bind fun n => s.channels.lookup n.toNat with
    | some channel => do
      connect descriptor channel
      return true
    | none => do
      complain (target.toText ++ ": Bad file descriptor")
      return false

/-- A shell started as a program, with what a new process takes over. -/
def newShell (name : String) (args : List Octets) : Act Unit :=
  modify fun s => { s with
    bindings := s.bindings.filter fun v => v.2.exported
    functions := []
    name := name
    arguments := args
    status := 0
    line := 1
    exitsOnError := false
    refusesUnset := false
    tested := false
    loops := 0
    hidden := none
    farewell := none
    context := none }

mutual

/-- The segments of pieces, between double quotes or not. -/
def segments (double : Bool) : Nat → List Piece → Act (List Segment)
  | 0, _ => throw .spent
  | _ + 1, [] => return []
  | fuel + 1, p :: ps => do
    let here ← segmentsOf double fuel p
    return here ++ (← segments double fuel ps)

def segmentsOf (double : Bool) : Nat → Piece → Act (List Segment)
  | 0, _ => throw .spent
  | fuel + 1, p =>
    let value := fun (v : Octets) => if double then Segment.text v true else .split v
    match p with
    | .literal text => return [.text text false]
    | .quoted text => return [.text text true]
    | .double [] => return [.text [] true]
    | .double ps => segments true fuel ps
    | .substitution body => do return [value (← outputOf fuel body)]
    | .arithmetic ps => do
      let text := Segment.plain (Segment.joined (← segments true fuel ps))
      let s ← get
      match Arithmetic.eval (fun name => (s.var? name).getD []) text with
      | .ok n => return [value (Octets.ofInt n)]
      | .error e => fatal (e.message text)
    | .malformed => fatal "Bad substitution"
    | .parameter name use colon word => parameter double name use colon word fuel

/-- The segments of a parameter. -/
def parameter (double : Bool) (name : String) (use : ParameterUse) (colon : Bool) (word : Word) :
    Nat → Act (List Segment)
  | 0 => throw .spent
  | fuel + 1 => do
    let s ← get
    let all := name == "@" || name == "*"
    let text? := if all then
        if s.arguments.isEmpty then none else some ([' '].intercalate s.arguments)
      else s.parameter? name
    let absent := text?.isNone || (colon && text? == some [])
    let text := text?.getD []
    let piece := fun (v : Octets) => if double then Segment.text v true else .split v
    let own := if all then s.positional double (name == "*") else [piece text]
    match use with
    | .plain =>
      if text?.isNone && s.refusesUnset && !all && name != "!" then
        fatal (name ++ ": parameter not set")
      else return own
    | .length => return [piece (Octets.ofNat (if all then s.arguments.length else text.length))]
    | .orDefault => if absent then segments double fuel (untilde s word) else return own
    | .alternative =>
      if absent then return if double then [.text [] true] else []
      else segments double fuel (untilde s word)
    | .assignDefault =>
      if absent then do
        let v := Segment.plain (Segment.joined (← segments double fuel (untilde s word)))
        modify fun s => s.setVar name v
        return [piece v]
      else return own
    | .orFail =>
      if absent then do
        let said := Segment.plain (Segment.joined (← segments double fuel (untilde s word)))
        let usual := "parameter not set" ++ if colon then " or null" else ""
        fatal (name ++ ": " ++ if word.isEmpty then usual else said.toText)
      else return own
    | .cutSuffix longest => do
      let p := patternOf (Segment.joined (← segments false fuel word))
      return [piece (cutSuffix p longest text)]
    | .cutFront longest => do
      let p := patternOf (Segment.joined (← segments false fuel word))
      return [piece (cutFront p longest text)]

/-- The output of commands, without the newlines at its end. -/
def outputOf : Nat → List Command → Act Octets
  | 0, _ => throw .spent
  | fuel + 1, body => do
    let i ← newSink
    apart do
      connect 1 (.sink i)
      all fuel body
    let s ← get
    set { s with inserted := some s.status }
    return ((s.sinks.getD i []).reverse.dropWhile (· = '\n')).reverse

/-- A word as one text. -/
def textOf : Nat → Word → Act Octets
  | 0, _ => throw .spent
  | fuel + 1, w => do
    return Segment.plain (Segment.joined (← segments false fuel (untilde (← get) w)))

/-- The fields of words. -/
def fieldsOf : Nat → List Word → Act (List Octets)
  | 0, _ => throw .spent
  | _ + 1, [] => return []
  | fuel + 1, w :: ws => do
    let parts ← segments false fuel (untilde (← get) w)
    let s ← get
    let here := (Segment.fields s.separators parts).flatMap (filesOf s.files s.workDir)
    return here ++ (← fieldsOf fuel ws)

/-- Applies redirections, up to the first that fails. -/
def redirect : Nat → List Redirection → Act Bool
  | 0, _ => throw .spent
  | _ + 1, [] => return true
  | fuel + 1, .mk descriptor kind target :: rs => do
    let path ← textOf fuel target
    let good ← match kind with
      | .input => openForInput descriptor path
      | .output => openForOutput descriptor path false
      | .append => openForOutput descriptor path true
      | .text => do
        connect descriptor (← newSource path)
        pure true
      | .duplicate => duplicate descriptor path
    if good then redirect fuel rs else return false

/-- The values of assignments. -/
def valuesOf : Nat → List (String × Word) → Act (List (String × Octets))
  | 0, _ => throw .spent
  | _ + 1, [] => return []
  | fuel + 1, (name, w) :: rest => do
    let v ← textOf fuel w
    return (name, v) :: (← valuesOf fuel rest)

/-- Runs a program of the system's directories. -/
def utility : Nat → String → List Octets → Act Unit
  | 0, _, _ => throw .spent
  | fuel + 1, name, args => do
    if name ∈ Utility.shellNames then shell fuel name args
    else if name = "env" then
      let vars := args.takeWhile fun a => a.contains '='
      for v in vars do
        let _ ← Builtin.declare "env" true [v]
      match args.drop vars.length with
      | [] => finish (← Utility.printenv [])
      | command :: rest => external fuel command.toText rest
    else match Utility.table.lookup name with
      | some f => finish (← f args)
      | none => finish 127

/-- Runs a shell as a program. -/
def shell : Nat → String → List Octets → Act Unit
  | 0, _, _ => throw .spent
  | fuel + 1, own, args => do
    match args with
    | ['-', 'c'] :: text :: rest => do
      newShell ((rest.head?.map Octets.toText).getD own) (rest.drop 1)
      whole fuel text
    | path :: rest => do
      let s ← get
      match s.files.read s.workDir path.toText with
      | .ok bytes => do
        newShell path.toText rest
        whole fuel (Octets.ofBytes bytes)
      | .error e => do
        newShell own []
        modify fun s => { s with line := 0 }
        fatal (openFault "open" "No such file" path e)
    | [] => do
      let text ← readAll
      newShell own []
      whole fuel text

/-- Runs a script and then what is left for the end of the shell. -/
def whole : Nat → Octets → Act Unit
  | 0, _ => throw .spent
  | fuel + 1, text => do
    let ended : Act Unit := tryCatch (script fuel ⟨text, 1⟩) fun
      | .exit => return
      | .functionEnd => return
      | stop => throw stop
    ended
    let s ← get
    match s.farewell with
    | none => throw .exit
    | some last => do
      set { s with farewell := none }
      script fuel ⟨last, 1⟩
      finish s.status
      throw .exit

/-- Runs a program that is looked for by its name, as a process of its own. -/
def external : Nat → String → List Octets → Act Unit
  | 0, _, _ => throw .spent
  | fuel + 1, name, args => do
    let s ← get
    let searchPath := (s.var? "PATH").map Octets.toText
    let found := do
      let p ← Program.locate s.files s.workDir searchPath name
      p.resolve s.files s.workDir searchPath 8 (args.map Octets.toText)
    match found with
    | .ok (program, words) =>
      -- The arguments keep their octets where they are handed on as they are.
      let front := words.take (words.length - args.length)
      process (utility fuel program (front.map Octets.ofText ++ args))
    | .error e =>
      if e = .noPermission then finish (← failWith 126 (name ++ ": Permission denied"))
      else finish (← failWith 127 (name ++ ": not found"))

/-- Runs a command of the shell, a function or a program. -/
def call : Nat → String → List Octets → Act Unit
  | 0, _, _ => throw .spent
  | fuel + 1, name, args => do
    let s ← get
    match name, s.functions.lookup name, Builtin.table.lookup name with
    | "eval", _, _ => do
      finish 0
      onBehalf "eval" (script fuel ⟨[' '].intercalate args, s.line⟩)
    | "exec", _, _ =>
      match args with
      | [] => return
      | command :: rest => do
        onBehalf "exec" (external fuel command.toText rest)
        throw .exit
    | ".", _, _ => do
      let path := args.headD []
      match s.files.read s.workDir path.toText with
      | .ok bytes => onBehalf path.toText (script fuel ⟨Octets.ofBytes bytes, 1⟩)
      | .error e => onBehalf "." (fatal (openFault "open" "No such file" path e))
    | "command", _, _ =>
      match args with
      | ['-', 'v'] :: w :: _ => do
        let known := (Builtin.table.lookup w.toText).isSome || w.toText ∈ Builtin.special ||
          (s.functions.lookup w.toText).isSome
        match Program.locate s.files s.workDir ((s.var? "PATH").map Octets.toText) w.toText with
        | .ok (.script path _) => do
          write 1 (Octets.ofText (path ++ "\n"))
          finish 0
        | .ok (.utility u) => do
          write 1 (Octets.ofText ((if known then u else "/usr/bin/" ++ u) ++ "\n"))
          finish 0
        | .error _ =>
          if known then
            write 1 (w ++ ['\n'])
            finish 0
          else finish 127
      | w :: rest =>
        match Builtin.table.lookup w.toText with
        | some f => do finish (← f rest)
        | none => external fuel w.toText rest
      | [] => finish 0
    | _, some body, _ =>
      if name ∈ Builtin.special then
        match Builtin.table.lookup name with
        | some f => do finish (← f args)
        | none => external fuel name args
      else calling args (run fuel body)
    | _, none, some f => do finish (← f args)
    | _, none, none => external fuel name args

/-- Runs a simple command. -/
def simple (line : Nat) (assignments : List (String × Word)) (words : List Word)
    (rs : List Redirection) : Nat → Act Unit
  | 0 => throw .spent
  | fuel + 1 => do
    modify fun s => { s with line := line, inserted := none }
    let fields ← fieldsOf fuel words
    match fields with
    | [] => withChannels do
      if ← redirect fuel rs then
        let values ← valuesOf fuel assignments
        modify fun s => values.foldl (fun s v => s.setVar v.1 v.2) s
        finish ((← get).inserted.getD 0)
      else finish 2
    | name :: args =>
      let name := name.toText
      let isSpecial := name ∈ Builtin.special
      let act := do
        if ← redirect fuel rs then
          let values ← valuesOf fuel assignments
          if isSpecial then
            modify fun s => values.foldl (fun s v => s.setVar v.1 v.2) s
            call fuel name args
          else withVariables values (call fuel name args)
        else do
          finish 2
          if isSpecial then throw .exit
      if name = "exec" ∧ args.isEmpty then act else withChannels act
    check

/-- Runs the stages of a pipeline, each on the output of the one before. -/
def stages : Nat → List Command → Act Unit
  | 0, _ => throw .spent
  | _ + 1, [] => return
  | fuel + 1, [c] => apart (run fuel c)
  | fuel + 1, c :: cs => do
    let i ← newSink
    apart do
      connect 1 (.sink i)
      run fuel c
    let source ← newSource ((← get).sinks.getD i [])
    withChannels do
      connect 0 source
      stages fuel cs

/-- Runs a loop while its condition's success is wanted. -/
def loop (wanted : Bool) (condition body : Command) (status : Nat) : Nat → Act Unit
  | 0 => throw .spent
  | fuel + 1 => do
    withTested true (run fuel condition)
    if ((← get).status = 0) = wanted then
      if ← turn (run fuel body) then loop wanted condition body (← get).status fuel
    else finish status

/-- Runs a body for one word after the other. -/
def each (name : String) (body : Command) : Nat → List Octets → Act Unit
  | 0, _ => throw .spent
  | _ + 1, [] => return
  | fuel + 1, w :: ws => do
    modify fun s => s.setVar name w
    if ← turn (run fuel body) then each name body fuel ws

/-- Runs the branch of the first condition that succeeds. -/
def choice (otherwise : Option Command) : Nat → List (Command × Command) → Act Unit
  | 0, _ => throw .spent
  | fuel + 1, [] =>
    match otherwise with
    | some c => run fuel c
    | none => finish 0
  | fuel + 1, (condition, body) :: rest => do
    withTested true (run fuel condition)
    if (← get).status = 0 then run fuel body else choice otherwise fuel rest

/-- Whether a text fits one of some patterns. -/
def fitsAny (subject : Octets) : Nat → List Word → Act Bool
  | 0, _ => throw .spent
  | _ + 1, [] => return false
  | fuel + 1, w :: ws => do
    let p := patternOf (Segment.joined (← segments false fuel (untilde (← get) w)))
    if fits p subject then return true else fitsAny subject fuel ws

/-- Runs the first branch that a text fits. -/
def select (subject : Octets) : Nat → List (List Word × Command) → Act Unit
  | 0, _ => throw .spent
  | _ + 1, [] => finish 0
  | fuel + 1, (patterns, body) :: rest => do
    if ← fitsAny subject fuel patterns then run fuel body else select subject fuel rest

/-- Runs commands one after the other. -/
def all : Nat → List Command → Act Unit
  | 0, _ => throw .spent
  | _ + 1, [] => return
  | fuel + 1, c :: cs => do
    run fuel c
    all fuel cs

/-- Runs a command. -/
def run : Nat → Command → Act Unit
  | 0, _ => throw .spent
  | fuel + 1, c =>
    match c with
    | .simple line assignments words rs => simple line assignments words rs fuel
    | .pipeline negated cs => do
      withTested (negated || (← get).tested) (stages fuel cs)
      if negated then finish (if (← get).status = 0 then 1 else 0) else check
    | .both a b => do
      withTested true (run fuel a)
      if (← get).status = 0 then run fuel b
    | .either a b => do
      withTested true (run fuel a)
      if (← get).status ≠ 0 then run fuel b
    | .background c => do
      apart (run fuel c)
      finish 0
    | .sequence [] => finish 0
    | .sequence cs => all fuel cs
    | .subshell c => do
      apart (run fuel c)
      check
    | .choice branches otherwise => choice otherwise fuel branches
    | .loop wanted condition body => loop wanted condition body 0 fuel
    | .each name words body => do
      let s ← get
      let ws ← match words with
        | some ws => fieldsOf fuel ws
        | none => pure s.arguments
      finish 0
      each name body fuel ws
    | .select subject branches => do
      let text ← textOf fuel subject
      select text fuel branches
    | .function name body => do
      modify fun s => { s with
        functions := (name, body) :: s.functions.filter fun f => f.1 != name }
      finish 0
    | .redirected c rs => withChannels do
      if ← redirect fuel rs then run fuel c else finish 2

/-- Runs a script line by line. -/
def script : Nat → Cursor → Act Unit
  | 0, _ => throw .spent
  | fuel + 1, cursor =>
    match Reader.next cursor with
    | .error e => do
      modify fun s => { s with line := e.line }
      fatal ("Syntax error: " ++ e.message)
    | .ok (none, _) => return
    | .ok (some cs, cursor) => do
      all fuel cs
      script fuel cursor

end

end Evaluation

end Fanout.Shell
