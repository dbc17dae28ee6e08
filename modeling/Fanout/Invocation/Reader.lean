import Fanout.Invocation.Options

/-!
# Reading command lines

Words are read from left to right, first those before the command and then those of the command. A
word with two hyphens names an option, one with a single hyphen is a cluster of letters, and two
hyphens alone end the options. An option's value is settled only when the next option, argument or
the end is reached, so a fault in it is noticed then.

The command to run starts at the first word that cannot be an option, and everything behind it
belongs to it.
-/
namespace Fanout

/-- What a word looks like. -/
inductive WordForm where
  /-- Two hyphens alone. -/
  | divider
  /-- A long name, perhaps with a value behind an equals sign. -/
  | long (name : String) (value : Option String)
  /-- Letters behind a hyphen. -/
  | cluster (letters : List Char)
  | plain
  deriving DecidableEq

namespace WordForm

def of (word : String) : WordForm :=
  match word.toList with
  | ['-', '-'] => .divider
  | '-' :: '-' :: cs =>
    let name := cs.takeWhile (· ≠ '=')
    match cs.drop name.length with
    | [] => .long (String.ofList name) none
    | _ :: value => .long (String.ofList name) (some (String.ofList value))
  | '-' :: c :: cs => .cluster (c :: cs)
  | _ => .plain

end WordForm

/-- The state of reading a part. -/
structure Reading where
  options : Options
  /-- A parameter that waits to be settled, with its value if that has been read. -/
  pending : Option (Parameter × Option String)

namespace Reading

def start : Reading := ⟨.none, none⟩

/-- Whether the next plain word is the value of an option. -/
def awaitsValue (r : Reading) : Bool :=
  match r.pending with
  | some (_, none) => true
  | _ => false

/-- Settles the parameter that waits. -/
def settle (r : Reading) : Except NoInvocation Reading :=
  match r.pending with
  | none => .ok r
  | some (p, none) => .error (.fault (.badValue p ""))
  | some (p, some value) =>
    match r.options.give p value with
    | .ok options => .ok ⟨options, none⟩
    | .error e => .error (.fault e)

/-- Lets a parameter wait for being settled. -/
def await (r : Reading) (p : Parameter) (value : Option String) : Except NoInvocation Reading := do
  let r ← r.settle
  return { r with pending := some (p, value) }

/-- Takes a parameter without a value. -/
def switchOn (s : Part) (r : Reading) (p : Parameter) : Except NoInvocation Reading := do
  let r ← r.settle
  match p with
  | .help => .error (.help s)
  | .version => .error (.version s)
  | p =>
    match r.options.toggle p with
    | .ok options => .ok { r with options := options }
    | .error e => .error (.fault e)

/-- Takes a parameter with a value that is attached to it. -/
def attach (r : Reading) (p : Parameter) (value : String) : Except NoInvocation Reading := do
  (← r.await p (some value)).settle

/-- Reads an option by its long name. -/
def long (s : Part) (r : Reading) (p : Parameter) (value : Option String) :
    Except NoInvocation Reading :=
  match p.takesValue, value with
  | true, some v => r.attach p v
  | true, none => r.await p none
  | false, some v => .error (.fault (.superfluousValue p v))
  | false, none => r.switchOn s p

/-- A value attached to a letter, with or without an equals sign. -/
def attachedValue : List Char → String
  | '=' :: cs => String.ofList cs
  | cs => String.ofList cs

/-- Reads a cluster of letters. A letter with a value has the rest of the cluster for it, or the
next word. -/
def cluster (s : Part) (r : Reading) : List Char → Except NoInvocation Reading
  | [] => .ok r
  | c :: cs =>
    match Parameter.ofLetter? s c with
    | none => .error (.fault (.unknownArgument ("-" ++ c.toString)))
    | some p =>
      if p.takesValue then
        if cs.isEmpty then r.await p none else r.attach p (attachedValue cs)
      else do cluster s (← r.switchOn s p) cs

/-- Settles what waits and takes in what the environment says. -/
def finish (r : Reading) (env : Environment) : Except NoInvocation Options := do
  let r ← r.settle
  match r.options.fill env with
  | .ok _ => .ok r.options
  | .error e => .error (.fault e)

end Reading

/-- A part that has been read, and the command that follows it, if one does. -/
structure PartEnd where
  reading : Reading
  next : Option (CommandName × List String)

namespace CommandLine

/-- The words behind the command that asks for help: at most one, the name of a command. -/
def helpOn : List String → NoInvocation
  | [] => .help none
  | [word] =>
    if word = "help" then .help none
    else match CommandName.ofName? word with
      | some c => .help (some c)
      | none => .fault (.unknownCommand word)
  | word :: next :: _ =>
    if word = "help" ∨ (CommandName.ofName? word).isSome then .fault (.unknownCommand next)
    else .fault (.unknownCommand word)

/-- The fault of a word that has no place before the command. -/
def strayWord (divided : Bool) (word : String) : UsageError :=
  if divided ∧ (word = "help" ∨ (CommandName.ofName? word).isSome) then .unknownArgument word
  else .unknownCommand word

/-- Takes the words from a part's first argument on, if the command to run starts there. -/
def startWords (r : Reading) (words : List String) : Except NoInvocation PartEnd := do
  let r ← r.settle
  return ⟨{ r with options := { r.options with words := words } }, none⟩

/-- Whether the shell of a completion script has been read. -/
def hasShell (r : Reading) : Bool :=
  r.options.shell.isSome || r.pending.any fun p => p.1 = .shell

/-- Reads words that can only be arguments. -/
def arguments (s : Part) (r : Reading) : List String → Except NoInvocation PartEnd
  | [] => .ok ⟨r, none⟩
  | word :: words =>
    match s with
    | none => .error (.fault (strayWord true word))
    | some .run => startWords r (word :: words)
    | some .completions =>
      if hasShell r then .error (.fault (.unknownArgument word))
      else do arguments s (← r.await .shell (some word)) words
    | some _ => .error (.fault (.unknownArgument word))

/-- Whether a word with hyphens cannot be an option, so that the command to run starts with it. -/
def startsCommand (s : Part) (form : WordForm) : Bool :=
  s = some .run &&
    match form with
    | .long name _ => (Parameter.ofLong? s name).isNone
    | .cluster letters => letters.any fun c => (Parameter.ofLetter? s c).isNone
    | _ => false

/-- Reads a part. -/
def readPart (s : Part) (r : Reading) : List String → Except NoInvocation PartEnd
  | [] => .ok ⟨r, none⟩
  | word :: words =>
    let command := if s.isNone && !r.awaitsValue then CommandName.ofName? word else none
    if s.isNone && !r.awaitsValue && word = "help" then .error (helpOn words)
    else match command with
      | some c => .ok ⟨r, some (c, words)⟩
      | none =>
        let form := WordForm.of word
        match if startsCommand s form then .plain else form with
        | .divider => arguments s r words
        | .long name value =>
          match Parameter.ofLong? s name with
          | none => .error (.fault (.unknownArgument word))
          | some p => do readPart s (← r.long s p value) words
        | .cluster letters => do readPart s (← r.cluster s letters) words
        | .plain =>
          match r.pending with
          | some (p, none) => readPart s { r with pending := some (p, some word) } words
          | _ =>
            match s with
            | none => .error (.fault (strayWord false word))
            | some .run => startWords r (word :: words)
            | some .completions =>
              if hasShell r then .error (.fault (.unknownArgument word))
              else do readPart s (← r.await .shell (some word)) words
            | some _ => .error (.fault (.unknownArgument word))

/-- Whether anything was given before the command, or by the environment in its place. -/
def givesNothing (o : Options) (env : Environment) : Bool :=
  o = .none && ([Parameter.logDir, .logLevel].all fun p => (p.envName?.bind env.get?).isNone)

end CommandLine

namespace Invocation

/-- The invocation that the words of a command line stand for. -/
def ofWords (env : Environment) (words : List String) : Except NoInvocation Invocation := do
  let outer ← CommandLine.readPart none .start words
  match outer.next with
  | none =>
    let options ← outer.reading.finish env
    .error (if CommandLine.givesNothing options env then .nothingGiven else .fault .missingCommand)
  | some (c, rest) =>
    let inner ← CommandLine.readPart (some c) .start rest
    let own ← inner.reading.finish env
    let request ← (own.request c).mapError .fault
    let before ← outer.reading.finish env
    let options ← ((own.overriding before).fill env).mapError .fault
    return options.invocation request

end Invocation

end Fanout
