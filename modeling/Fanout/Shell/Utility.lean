import Fanout.Shell.Condition
import Fanout.Shell.Filter
import Fanout.Shell.Format

/-!
# Utilities

Programs that are found in the system's directories. Each has its arguments, reads and writes
through the open channels, and ends with a status.
-/
namespace Fanout.Shell.Utility

open Act

/-- Reports a fault under a utility's own name. -/
def report (name text : String) : Act Unit :=
  write 2 (Octets.ofText (name ++ ": " ++ text ++ "\n"))

/-- The system's words for an error, without its number. -/
def words (e : OsError) : String :=
  match e with
  | .code n => OsError.text n
  | .notUtf8 => "invalid text"
  | .nulInPath | .nulInCommand => OsError.text 22

/-- The text of each file, or of the input for a hyphen, and whether all could be read. -/
def inputs (name : String) (prefixText : String) : List Octets → Act (List (Octets × Octets) × Bool)
  | [] => return ([], true)
  | f :: fs => do
    let s ← get
    let here ← if f = ['-'] then do pure (some (← readAll))
      else match s.files.read s.workDir f.toText with
        | .ok bytes => pure (some (Octets.ofBytes bytes))
        | .error e => do
          report name (prefixText ++ f.toText ++ ": " ++ words e)
          pure none
    let (rest, good) ← inputs name prefixText fs
    match here with
    | some text => return ((f, text) :: rest, good)
    | none => return (rest, false)

/-- The files named, or the input if none is. -/
def inputsOr (name : String) (files : List Octets) : Act (List (Octets × Octets) × Bool) :=
  inputs name "" (if files.isEmpty then [['-']] else files)

def statusOf (good : Bool) : Nat := if good then 0 else 1

/-- The letters of the options in front, and what follows them. -/
def letters : List Octets → List Char × List Octets
  | ['-', '-'] :: rest => ([], rest)
  | ('-' :: c :: cs) :: rest =>
    let (more, operands) := letters rest
    (c :: cs ++ more, operands)
  | args => ([], args)

def cat (args : List Octets) : Act Nat := do
  let (texts, good) ← inputsOr "cat" args
  for (_, text) in texts do write 1 text
  return statusOf good

def wc (args : List Octets) : Act Nat := do
  let (flags, files) := letters args
  let (texts, good) ← inputsOr "wc" files
  let rows := texts.map fun (f, text) => (f, Filter.counts flags text)
  let total := (rows.map Prod.snd).foldl
    (fun acc ns => if acc.isEmpty then ns else List.zipWith (· + ·) acc ns) []
  let size := (texts.map fun t => t.2.length).foldl (· + ·) 0
  let single := rows.length == 1 && (rows.headD ([], [])).2.length == 1
  let width := if single then 1 else if files.isEmpty then 7 else (Octets.ofNat size).length
  for (f, ns) in rows do
    write 1 (Filter.countRow width ns (if files.isEmpty then none else some f))
  if 1 < rows.length then write 1 (Filter.countRow width total (some "total".toList))
  return statusOf good

def tr (args : List Octets) : Act Nat := do
  let (flags, sets) := letters args
  let text ← readAll
  let complement := 'c' ∈ flags || 'C' ∈ flags
  let first := Filter.charSet (sets.headD [])
  let first := if complement then Filter.octetsWhere fun c => c ∉ first else first
  let second := Filter.charSet ((sets.drop 1).headD [])
  if sets.isEmpty then
    report "tr" "missing operand"
    return 1
  else if 'd' ∈ flags then
    let kept := text.filter fun c => c ∉ first
    write 1 (if 's' ∈ flags then Filter.squeeze second kept else kept)
    return 0
  else if sets.length = 1 then
    write 1 (if 's' ∈ flags then Filter.squeeze first text else text)
    return 0
  else
    let changed := Filter.translate first second text
    write 1 (if 's' ∈ flags then Filter.squeeze second changed else changed)
    return 0

/-- How many lines are asked for, from the end on if `true`, and the files. -/
def lineCount : List Octets → (Nat × Bool) × List Octets
  | ['-', 'n'] :: n :: rest => (amount n, rest)
  | ('-' :: 'n' :: n) :: rest => (amount n, rest)
  | ('-' :: n) :: rest =>
    if n ≠ [] ∧ n.all Char.isDigit then (amount n, rest) else ((10, false), ('-' :: n) :: rest)
  | args => ((10, false), args)
where
  amount (n : Octets) : Nat × Bool :=
    match n with
    | '+' :: ds => (((Octets.toInt? ds).getD 0).toNat, true)
    | '-' :: ds => (((Octets.toInt? ds).getD 0).toNat, true)
    | ds => (((Octets.toInt? ds).getD 0).toNat, false)

/-- Text lines, of which the last may lack its newline. -/
def rawLines (text : Octets) : List Octets :=
  let ls := Octets.lines text
  let closed := text.getLast? = some '\n'
  ls.mapIdx fun i l => if i + 1 = ls.length && !closed then l else l ++ ['\n']

def head (args : List Octets) : Act Nat := do
  let ((n, fromEnd), files) := lineCount args
  let (texts, good) ← inputsOr "head" files
  for (_, text) in texts do
    let ls := rawLines text
    write 1 (if fromEnd then ls.take (ls.length - n) else ls.take n).flatten
  return statusOf good

def tail (args : List Octets) : Act Nat := do
  let ((n, fromStart), files) := lineCount args
  let (texts, good) ← inputsOr "tail" files
  for (_, text) in texts do
    let ls := rawLines text
    write 1 (if fromStart then ls.drop (n - 1) else ls.drop (ls.length - n)).flatten
  return statusOf good

def sort (args : List Octets) : Act Nat := do
  let (flags, files) := letters args
  let (texts, good) ← inputsOr "sort" files
  let ls := texts.flatMap fun t => Octets.lines t.2
  write 1 (Filter.unlines (Filter.sortLines ('n' ∈ flags) ('r' ∈ flags) ('u' ∈ flags) ls))
  return if good then 0 else 2

def uniq (args : List Octets) : Act Nat := do
  let (flags, files) := letters args
  let (texts, good) ← inputsOr "uniq" files
  let runs := Filter.runs (texts.flatMap fun t => Octets.lines t.2)
  let kept := runs.filter fun r =>
    ('d' ∉ flags || 1 < r.2) && ('u' ∉ flags || r.2 == 1)
  let row := fun (r : Octets × Nat) =>
    if 'c' ∈ flags then
      let ds := Octets.ofNat r.2
      List.replicate (7 - ds.length) ' ' ++ ds ++ ' ' :: r.1
    else r.1
  write 1 (Filter.unlines (kept.map row))
  return statusOf good

def seq (args : List Octets) : Act Nat := do
  match args.mapM Octets.toInt? with
  | some [last] => printed (Filter.sequence 1 1 last)
  | some [first, last] => printed (Filter.sequence first 1 last)
  | some [first, step, last] => printed (Filter.sequence first step last)
  | _ => do
    report "seq" "invalid argument"
    return 1
where
  printed (ns : List Int) : Act Nat := do
    write 1 (Filter.unlines (ns.map Octets.ofInt))
    return 0

/-- Changes the files, or tells why they cannot be changed. -/
def changeFiles (name doing : String) (path : Octets)
    (change : State → Except OsError FileTree) : Act Bool := do
  let s ← get
  match change s with
  | .ok files => do
    set { s with files := files }
    return true
  | .error e => do
    report name (doing ++ path.toText ++ "': " ++ words e)
    return false

def tee (args : List Octets) : Act Nat := do
  let (flags, files) := letters args
  let text ← readAll
  write 1 text
  let mut good := true
  for f in files do
    let done ← changeFiles "tee" "'" f fun s =>
      if 'a' ∈ flags then s.files.append s.workDir f.toText (Octets.toBytes text)
      else s.files.write s.workDir f.toText (Octets.toBytes text)
    good := good && done
  return statusOf good

def touch (args : List Octets) : Act Nat := do
  let mut good := true
  for f in (letters args).2 do
    let done ← changeFiles "touch" "cannot touch '" f fun s =>
      match s.files.find s.workDir f.toText with
      | .ok _ => .ok s.files
      | .error _ => s.files.append s.workDir f.toText []
    good := good && done
  return statusOf good

def mkdir (args : List Octets) : Act Nat := do
  let (flags, dirs) := letters args
  let mut good := true
  for d in dirs do
    let done ← changeFiles "mkdir" "cannot create directory '" d fun s =>
      if 'p' ∈ flags then s.files.makeDirs s.workDir d.toText
      else do
        let place ← s.files.resolve s.workDir d.toText
        if (s.files.at? place).isSome then throw .alreadyExists
        match s.files.at? place.dropLast with
        | some .dir => return s.files.put place .dir
        | some (.file _ _) => throw .notDirectory
        | none => throw .notFound
    good := good && done
  return statusOf good

def rm (args : List Octets) : Act Nat := do
  let (flags, paths) := letters args
  let mut good := true
  for p in paths do
    let s ← get
    let missing := match s.files.find s.workDir p.toText with
      | .ok _ => false
      | .error _ => true
    if !(missing && 'f' ∈ flags) then
      let done ← changeFiles "rm" "cannot remove '" p fun s => do
        let place ← s.files.resolve s.workDir p.toText
        match s.files.at? place with
        | none => throw .notFound
        | some .dir =>
          if 'r' ∈ flags || 'R' ∈ flags then return s.files.remove place else throw .isDirectory
        | some (.file _ _) => return s.files.remove place
      good := good && done
  return statusOf good

/-- The part of a path behind its last slash. -/
def lastPart (path : Octets) : Octets :=
  let cs := (path.reverse.dropWhile (· = '/')).takeWhile (· ≠ '/')
  if cs.isEmpty && !path.isEmpty then ['/'] else cs.reverse

def basename (args : List Octets) : Act Nat := do
  let name := lastPart (args.headD [])
  let suffix := (args.drop 1).headD []
  let cut := if suffix ≠ [] ∧ suffix ≠ name ∧ suffix.isSuffixOf name then
      name.take (name.length - suffix.length)
    else name
  write 1 (cut ++ ['\n'])
  return 0

def dirname (args : List Octets) : Act Nat := do
  let path := args.headD []
  let cs := (path.reverse.dropWhile (· = '/')).dropWhile (· ≠ '/')
  let dir := (cs.dropWhile (· = '/')).reverse
  let text := if !dir.isEmpty then dir else if path.head? = some '/' then ['/'] else ['.']
  write 1 (text ++ ['\n'])
  return 0

def printenv (args : List Octets) : Act Nat := do
  let vars := (← get).environment
  if args.isEmpty then
    for (name, value) in vars do write 1 (Octets.ofText name ++ '=' :: value ++ ['\n'])
    return 0
  else
    let mut good := true
    for a in args do
      match vars.lookup a.toText with
      | some value => write 1 (value ++ ['\n'])
      | none => good := false
    return statusOf good

def echo (args : List Octets) : Act Nat := do
  write 1 (Format.echo args)
  return 0

/-- Prints a format, with what reports its faults. -/
def printf (fault : String → Act Unit) (args : List Octets) : Act Nat := do
  match if args.head? = some ['-', '-'] then args.drop 1 else args with
  | [] => do
    fault "usage: printf format [arg ...]"
    return 2
  | format :: args => do
    let (text, faults) := Format.print format (args.length + 2) args
    write 1 text
    for f in faults do fault f
    return if faults.isEmpty then 0 else if faults.any (·.startsWith "%") then 2 else 1

/-- A test, whose last word has to be a bracket if it begins with one. -/
def test (fault : String → Act Unit) (bracket : Bool) (args : List Octets) : Act Nat := do
  if bracket && args.getLast? ≠ some [']'] then
    fault "missing ]"
    return 2
  else
    match Condition.eval (← get) (if bracket then args.dropLast else args) with
    | .ok b => return if b then 0 else 1
    | .error e => do
      fault e
      return 2

def pwd : Act Nat := do
  write 1 (Octets.ofText ((← get).workDir ++ "\n"))
  return 0

/-- The utilities by name. -/
def table : List (String × (List Octets → Act Nat)) :=
  [("cat", cat), ("wc", wc), ("tr", tr), ("head", head), ("tail", tail), ("sort", sort),
    ("uniq", uniq), ("seq", seq), ("tee", tee), ("touch", touch), ("mkdir", mkdir), ("rm", rm),
    ("basename", basename), ("dirname", dirname), ("printenv", printenv),
    ("sleep", fun _ => return 0), ("true", fun _ => return 0), ("false", fun _ => return 1),
    ("echo", echo), ("printf", printf (report "printf")), ("test", test (report "test") false),
    ("[", test (report "[") true), ("pwd", fun _ => pwd)]

/-- The names of the shell. -/
def shellNames : List String := ["sh", "dash", "bash"]

/-- The names of all programs in the system's directories. -/
def names : List String := shellNames ++ "env" :: table.map Prod.fst

def isInstalled (name : String) : Bool := name ∈ names

end Fanout.Shell.Utility
