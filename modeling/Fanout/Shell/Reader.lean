import Fanout.Shell.Grammar

/-!
# Reading shell commands

A script is read command by command, each up to the end of its line, so that what stands before a
fault is run before the fault is noticed. Words are told apart by blanks and operators; whether a
word is reserved depends on where it stands and on its being unquoted.
-/
namespace Fanout.Shell

/-- A fault in a script, in a line. -/
structure SyntaxError where
  line : Nat
  message : String

/-- What is left of a script, and the number of its first line. -/
structure Cursor where
  rest : Octets
  line : Nat

abbrev Reader := StateT Cursor (Except SyntaxError)

namespace Reader

def fail {α : Type} (message : String) : Reader α := fun c => .error ⟨c.line, message⟩

/-- Fails with a fault that is told of an earlier line. -/
def failAt {α : Type} (line : Nat) (message : String) : Reader α := fun _ => .error ⟨line, message⟩

/-- Goes on behind so many characters. -/
def skip (n : Nat) : Reader Unit := fun c =>
  .ok ((), ⟨c.rest.drop n, c.line + (c.rest.take n).count '\n'⟩)

/-! ## Looking ahead -/

/-- What comes next. -/
inductive Ahead where
  | nothing
  | newline
  | operator (text : String)
  | redirection
  /-- A word; its text if no part of it is quoted or to be replaced. -/
  | word (text : Option String)

def isBlank (c : Char) : Bool := c == ' ' || c == '\t'

/-- Characters that end a word. -/
def isDelimiter (c : Char) : Bool :=
  isBlank c || c == '\n' || c ∈ [';', '&', '|', '<', '>', '(', ')']

/-- Characters that mean something else than themselves inside a word. -/
def isActive (c : Char) : Bool := c ∈ ['\\', '\'', '"', '$', '\x60']

/-- Drops blanks, joined lines and a comment. -/
def blanks : Reader Unit := fun c =>
  let rec go : Octets → Nat → Octets × Nat
    | '\\' :: '\n' :: cs, n => go cs (n + 1)
    | c :: cs, n => if isBlank c then go cs n else (c :: cs, n)
    | [], n => ([], n)
  let (rest, line) := go c.rest c.line
  let rest := match rest with
    | '#' :: cs => cs.dropWhile (· ≠ '\n')
    | cs => cs
  .ok ((), ⟨rest, line⟩)

/-- What the next characters are, after blanks. -/
def aheadOf (cs : Octets) : Ahead :=
  match cs with
  | [] => .nothing
  | '\n' :: _ => .newline
  | '&' :: '&' :: _ => .operator "&&"
  | '|' :: '|' :: _ => .operator "||"
  | ';' :: ';' :: _ => .operator ";;"
  | c :: _ =>
    if c ∈ [';', '&', '|', '(', ')'] then .operator c.toString
    else
      let digits := cs.takeWhile Char.isDigit
      match cs.drop digits.length with
      | '<' :: _ => .redirection
      | '>' :: _ => .redirection
      | _ =>
        let word := cs.takeWhile fun c => !isDelimiter c
        .word (if word.any isActive then none else some (String.ofList word))

def ahead : Reader Ahead := do
  blanks
  return aheadOf (← get).rest

/-- What comes next, as a fault names it. -/
def Ahead.name : Ahead → String
  | .nothing => "end of file"
  | .newline => "newline"
  | .operator text => "\"" ++ text ++ "\""
  | .redirection => "redirection"
  | .word (some text) => if text ∈ reservedWords then "\"" ++ text ++ "\"" else "word"
  | .word none => "word"

/-- Refuses what comes next. -/
def unexpected {α : Type} (expecting : Option String) : Reader α := do
  let a ← ahead
  let tail := expecting.elim "" fun t => " (expecting \"" ++ t ++ "\")"
  fail (a.name ++ " unexpected" ++ tail)

def Ahead.isOperator (a : Ahead) (text : String) : Bool :=
  match a with
  | .operator t => t == text
  | _ => false

def Ahead.isReserved (a : Ahead) (text : String) : Bool :=
  match a with
  | .word (some t) => t == text
  | _ => false

/-- Whether the commands of a compound one end here. -/
def Ahead.closes : Ahead → Bool
  | .operator t => t == ")" || t == ";;"
  | .word (some t) => t ∈ ["then", "fi", "elif", "else", "do", "done", "esac", "\x7d"]
  | _ => false

/-- Takes an operator. -/
def operator (text : String) : Reader Unit := do
  if (← ahead).isOperator text then skip text.length else unexpected (some text)

/-- Drops newlines. -/
def newlines : Nat → Reader Unit
  | 0 => return
  | fuel + 1 => do
    match ← ahead with
    | .newline => do
      skip 1
      newlines fuel
    | _ => return

/-- Takes a reserved word, after newlines. -/
def reserved (text : String) : Reader Unit := do
  newlines (← get).rest.length
  if (← ahead).isReserved text then skip text.length else unexpected (some text)

/-! ## Words -/

/-- Where a word stands, which decides on what ends it and on what can be quoted. -/
inductive Place where
  | bare
  | double
  /-- Behind the name of a parameter in braces. -/
  | brace (inDouble : Bool)
  /-- The whole rest of the text. -/
  | all
  deriving DecidableEq

def Place.isDouble : Place → Bool
  | .bare => false
  | .double => true
  | .brace inDouble => inDouble
  | .all => true

/-- Whether a character ends the word at a place. -/
def Place.ends (p : Place) (c : Char) : Bool :=
  match p with
  | .bare => isDelimiter c
  | .double => c == '"'
  | .brace _ => c == '\x7d'
  | .all => false

/-- What a backslash makes of the character behind it. -/
def Place.escaped (p : Place) (c : Char) : Octets :=
  if !p.isDouble || c ∈ ['$', '\x60', '"', '\\'] || (p == .brace true && c == '\x7d') then [c]
  else ['\\', c]

/-- Text up to the quote that ends it. -/
def singleQuoted : Reader Octets := do
  let c ← get
  let text := c.rest.takeWhile (· ≠ '\'')
  if text.length < c.rest.length then
    skip (text.length + 1)
    return text
  else fail "Unterminated quoted string"

/-- Text up to the parenthesis pair that ends an arithmetic expression. -/
def upToParens : Nat → Octets → Option Octets
  | _, [] => none
  | 0, ')' :: ')' :: _ => some []
  | depth, c :: cs =>
    let depth := if c = '(' then depth + 1 else if c = ')' then depth - 1 else depth
    (upToParens depth cs).map (c :: ·)

/-- Text up to the back quote that ends it. A backslash keeps its meaning unless it stands before
one of three characters, or between double quotes a fourth. -/
def upToBackQuote (inDouble : Bool) : Octets → Option (Octets × Nat)
  | [] => none
  | '\x60' :: _ => some ([], 1)
  | '\\' :: c :: cs =>
    (upToBackQuote inDouble cs).map fun (text, n) =>
      (if c ∈ ['\\', '\x60', '$'] || (inDouble && c == '"') then c :: text
        else '\\' :: c :: text, n + 2)
  | c :: cs => (upToBackQuote inDouble cs).map fun (text, n) => (c :: text, n + 1)

def specialParameters : List Char := ['@', '*', '#', '?', '-', '$', '!']

/-- The name of a parameter at the beginning of a text. -/
def parameterName (cs : Octets) (braced : Bool) : Octets :=
  match cs with
  | [] => []
  | c :: _ =>
    if c.isDigit then if braced then cs.takeWhile Char.isDigit else [c]
    else if isNameChar c then cs.takeWhile isNameChar
    else if c ∈ specialParameters then [c]
    else []

/-- The use of a parameter that an operator asks for. -/
def useOf : Octets → Option (ParameterUse × Bool × Nat)
  | ':' :: c :: _ => (operators.lookup c).map fun u => (u, true, 2)
  | '%' :: '%' :: _ => some (.cutSuffix true, false, 2)
  | '%' :: _ => some (.cutSuffix false, false, 1)
  | '#' :: '#' :: _ => some (.cutFront true, false, 2)
  | '#' :: _ => some (.cutFront false, false, 1)
  | c :: _ => (operators.lookup c).map fun u => (u, false, 1)
  | [] => none
where
  operators : List (Char × ParameterUse) :=
    [('-', .orDefault), ('=', .assignDefault), ('?', .orFail), ('+', .alternative)]

/-- The name assigned to at the beginning of a word. -/
def assignedName (cs : Octets) : Option String :=
  let name := cs.takeWhile isNameChar
  if isName name && (cs.drop name.length).head? == some '=' then some (String.ofList name)
  else none

/-- The text of a word that ends lines of input, and whether a part of it is quoted. -/
def delimiterOf (w : Word) : Octets × Bool :=
  w.foldl (fun acc p => match p with
    | .literal t => (acc.1 ++ t, acc.2)
    | .quoted t => (acc.1 ++ t, true)
    | .double ps => (acc.1 ++ ps.flatMap fun
        | .quoted t => t
        | _ => [], true)
    | _ => acc) ([], false)

/-- The kind of a redirection, its usual descriptor and its length. -/
def redirectionOf : Octets → Option (RedirectionKind × Nat × Nat)
  | '>' :: '>' :: _ => some (.append, 1, 2)
  | '>' :: '&' :: _ => some (.duplicate, 1, 2)
  | '>' :: '|' :: _ => some (.output, 1, 2)
  | '>' :: _ => some (.output, 1, 1)
  | '<' :: '&' :: _ => some (.duplicate, 0, 2)
  | '<' :: '<' :: '-' :: _ => some (.text, 0, 3)
  | '<' :: '<' :: _ => some (.text, 0, 2)
  | '<' :: _ => some (.input, 0, 1)
  | _ => none

mutual

/-- The pieces of a word up to its end. -/
def pieces (place : Place) : Nat → Reader (List Piece)
  | 0 => fail "Maximum function recursion depth reached"
  | fuel + 1 => do
    let c ← get
    match c.rest with
    | [] =>
      match place with
      | .double => fail "Unterminated quoted string"
      | .brace _ => fail "Missing '\x7d'"
      | _ => return []
    | '\\' :: '\n' :: _ => do
      skip 2
      pieces place fuel
    | ['\\'] => do
      skip 1
      return [.quoted ['\\']]
    | '\\' :: x :: _ => do
      skip 2
      return .quoted (place.escaped x) :: (← pieces place fuel)
    | '$' :: _ => do
      skip 1
      let p ← dollar place.isDouble fuel
      return p :: (← pieces place fuel)
    | '\x60' :: cs => do
      match upToBackQuote place.isDouble cs with
      | none => fail "EOF in backquote substitution"
      | some (text, n) => do
        skip (n + 1)
        let body ← inner text c.line fuel
        return .substitution body :: (← pieces place fuel)
    | x :: _ =>
      if place.ends x then do
        if place != .bare then skip 1
        return []
      else if x = '"' ∧ (!place.isDouble ∨ place = .brace true) then do
        skip 1
        let inside ← fun s => match pieces .double fuel s with
          | .error e => .error ⟨s.line, e.message⟩
          | .ok r => .ok r
        return .double inside :: (← pieces place fuel)
      else if x = '\'' ∧ !place.isDouble then do
        skip 1
        let text ← singleQuoted
        return .quoted text :: (← pieces place fuel)
      else do
        let text := x :: c.rest.tail.takeWhile fun y => !isActive y && !place.ends y
        skip text.length
        let piece := if place.isDouble then Piece.quoted text else .literal text
        return piece :: (← pieces place fuel)

/-- What stands behind a dollar sign. -/
def dollar (inDouble : Bool) : Nat → Reader Piece
  | 0 => fail "Maximum function recursion depth reached"
  | fuel + 1 => do
    let c ← get
    match c.rest with
    | '(' :: '(' :: cs =>
      match upToParens 0 cs with
      | some text => do
        skip (text.length + 4)
        match pieces .all fuel ⟨text, c.line⟩ with
        | .ok (ps, _) => return .arithmetic ps
        | .error e => failAt e.line e.message
      | none => fail "Missing '))'"
    | '(' :: _ => do
      skip 1
      newlines c.rest.length
      let body ← match ← ahead with
        | .nothing => unexpected (some ")")
        | .operator ")" => pure []
        | _ => commands fuel
      operator ")"
      return .substitution body
    | '\x7b' :: cs => do
      skip 1
      braced cs inDouble fuel
    | cs =>
      let name := parameterName cs false
      if name.isEmpty then return .literal ['$']
      else do
        skip name.length
        return .parameter (String.ofList name) .plain false []

/-- What stands behind a dollar sign and a brace. -/
def braced (cs : Octets) (inDouble : Bool) : Nat → Reader Piece
  | 0 => fail "Maximum function recursion depth reached"
  | fuel + 1 => do
    let counted := match cs with
      | '#' :: more => if (parameterName more true).isEmpty then none else some (parameterName more true)
      | _ => none
    match counted with
    | some name =>
      if (cs.drop (name.length + 1)).head? = some '\x7d' then do
        skip (name.length + 2)
        return .parameter (String.ofList name) .length false []
      else do
        let _ ← pieces (.brace inDouble) fuel
        return .malformed
    | none =>
      let name := parameterName cs true
      let rest := cs.drop name.length
      if name.isEmpty then do
        let _ ← pieces (.brace inDouble) fuel
        return .malformed
      else match rest, useOf rest with
        | '\x7d' :: _, _ => do
          skip (name.length + 1)
          return .parameter (String.ofList name) .plain false []
        | _, some (use, colon, n) => do
          skip (name.length + n)
          let cuts := match use with
            | .cutSuffix _ => true
            | .cutFront _ => true
            | _ => false
          let word ← pieces (.brace (inDouble && !cuts)) fuel
          return .parameter (String.ofList name) use colon word
        | _, none => do
          let _ ← pieces (.brace inDouble) fuel
          return .malformed

/-- The commands of a whole text. -/
def inner (text : Octets) (line : Nat) : Nat → Reader (List Command)
  | 0 => fail "Maximum function recursion depth reached"
  | fuel + 1 => fun s =>
    let reading : Reader (List Command) := do
      newlines text.length
      match ← ahead with
      | .nothing => return []
      | _ => do
        let body ← commands fuel
        match ← ahead with
        | .nothing => return body
        | _ => unexpected none
    match reading ⟨text, line⟩ with
    | .ok (body, _) => .ok (body, s)
    | .error e => .error e

/-- A word. -/
def word : Nat → Reader Word
  | 0 => fail "Maximum function recursion depth reached"
  | fuel + 1 => do
    match ← ahead with
    | .word _ => pieces .bare fuel
    | _ => unexpected none

/-- The lines behind the current one, up to a line that a word names. Unless that word is quoted,
parameters and commands in them are replaced. -/
def hereText (stripped : Bool) (mark : Word) : Nat → Reader Word
  | 0 => fail "Maximum function recursion depth reached"
  | fuel + 1 => do
    let c ← get
    let (name, isQuoted) := delimiterOf mark
    let current := c.rest.takeWhile (· ≠ '\n')
    let strip := fun (l : Octets) => if stripped then l.dropWhile (· = '\t') else l
    let ls := (Octets.lines (c.rest.drop (current.length + 1))).map strip
    let text := ls.takeWhile (· ≠ name)
    let rest := ls.drop (text.length + 1)
    set { c with rest := current ++ '\n' :: rest.flatMap fun l => l ++ ['\n'] }
    let body := text.flatMap fun l => l ++ ['\n']
    if isQuoted then return [.quoted body]
    else match pieces .all fuel ⟨body, c.line + 1⟩ with
      | .ok (ps, _) => return [.double ps]
      | .error e => failAt e.line e.message

/-- A redirection. -/
def redirection : Nat → Reader Redirection
  | 0 => fail "Maximum function recursion depth reached"
  | fuel + 1 => do
    let cs := (← get).rest
    let digits := cs.takeWhile Char.isDigit
    match redirectionOf (cs.drop digits.length) with
    | none => fail "redirection unexpected"
    | some (kind, usual, n) => do
      skip (digits.length + n)
      let target ← word fuel
      let target ← if kind = .text then hereText (n = 3) target fuel else pure target
      let given := digits.foldl (fun n c => 10 * n + (c.toNat - '0'.toNat)) 0
      return .mk (if digits.isEmpty then usual else given) kind target

def redirections : Nat → Reader (List Redirection)
  | 0 => fail "Maximum function recursion depth reached"
  | fuel + 1 => do
    match ← ahead with
    | .redirection => do
      let r ← redirection fuel
      return r :: (← redirections fuel)
    | _ => return []

/-- The rest of a simple command, of which some has been read. -/
def simple (line : Nat) (assignments : List (String × Word)) (words : List Word)
    (rs : List Redirection) : Nat → Reader Command
  | 0 => fail "Maximum function recursion depth reached"
  | fuel + 1 => do
    match ← ahead with
    | .redirection => do
      let r ← redirection fuel
      simple line assignments words (rs ++ [r]) fuel
    | .word text => do
      let cs := (← get).rest
      match if words.isEmpty then assignedName cs else none with
      | some name => do
        skip (name.length + 1)
        let value ← pieces .bare fuel
        simple line (assignments ++ [(name, value)]) words rs fuel
      | none => do
        let w ← word fuel
        let first := words.isEmpty && assignments.isEmpty && rs.isEmpty
        if first && (← ahead).isOperator "(" then do
          skip 1
          operator ")"
          match text with
          | some name =>
            if isName name.toList then do
              newlines (← get).rest.length
              return .function name (← command fuel)
            else fail "Bad function name"
          | none => fail "Bad function name"
        else simple line assignments (words ++ [w]) rs fuel
    | .operator "(" => unexpected none
    | _ =>
      if assignments.isEmpty && words.isEmpty && rs.isEmpty then unexpected none
      else return .simple line assignments words rs

/-- A command, with its redirections if it is a compound one. -/
def command : Nat → Reader Command
  | 0 => fail "Maximum function recursion depth reached"
  | fuel + 1 => do
    let a ← ahead
    let line := (← get).line
    let compound : Option (Reader Command) := match a with
      | .operator "(" => some do
        skip 1
        let body ← commands fuel
        operator ")"
        return .subshell (.sequence body)
      | .word (some "\x7b") => some do
        skip 1
        let body ← commands fuel
        reserved "\x7d"
        return .sequence body
      | .word (some "if") => some do
        skip 2
        branches [] fuel
      | .word (some "while") => some do
        skip 5
        loop true fuel
      | .word (some "until") => some do
        skip 5
        loop false fuel
      | .word (some "for") => some do
        skip 3
        each fuel
      | .word (some "case") => some do
        skip 4
        let subject ← word fuel
        reserved "in"
        return .select subject (← cases fuel)
      | _ => none
    match compound with
    | some reader => do
      let body ← reader
      let rs ← redirections fuel
      return if rs.isEmpty then body else .redirected body rs
    | none =>
      match a with
      | .word (some text) =>
        if text ∈ reservedWords then unexpected none else simple line [] [] [] fuel
      | _ => simple line [] [] [] fuel

/-- The branches of a choice, from a condition on. -/
def branches (before : List (Command × Command)) : Nat → Reader Command
  | 0 => fail "Maximum function recursion depth reached"
  | fuel + 1 => do
    let condition ← commands fuel
    reserved "then"
    let body ← commands fuel
    let all := before ++ [(.sequence condition, .sequence body)]
    let a ← ahead
    if a.isReserved "elif" then do
      skip 4
      branches all fuel
    else if a.isReserved "else" then do
      skip 4
      let otherwise ← commands fuel
      reserved "fi"
      return .choice all (some (.sequence otherwise))
    else do
      reserved "fi"
      return .choice all none

def body : Nat → Reader Command
  | 0 => fail "Maximum function recursion depth reached"
  | fuel + 1 => do
    reserved "do"
    let b ← commands fuel
    reserved "done"
    return .sequence b

def loop (wanted : Bool) : Nat → Reader Command
  | 0 => fail "Maximum function recursion depth reached"
  | fuel + 1 => do
    let condition ← commands fuel
    return .loop wanted (.sequence condition) (← body fuel)

/-- A loop over words, from its variable on. -/
def each : Nat → Reader Command
  | 0 => fail "Maximum function recursion depth reached"
  | fuel + 1 => do
    match ← ahead with
    | .word (some name) =>
      if isName name.toList then do
        skip name.length
        newlines (← get).rest.length
        if (← ahead).isReserved "in" then do
          skip 2
          let words ← manyWords fuel
          match ← ahead with
          | .newline => skip 1
          | .operator ";" => skip 1
          | _ => unexpected none
          return .each name (some words) (← body fuel)
        else do
          if (← ahead).isOperator ";" then skip 1
          return .each name none (← body fuel)
      else fail "Bad for loop variable"
    | _ => fail "Bad for loop variable"

def manyWords : Nat → Reader (List Word)
  | 0 => fail "Maximum function recursion depth reached"
  | fuel + 1 => do
    match ← ahead with
    | .word _ => do
      let w ← word fuel
      return w :: (← manyWords fuel)
    | _ => return []

/-- The patterns of a branch, up to the parenthesis behind them. -/
def patterns : Nat → Reader (List Word)
  | 0 => fail "Maximum function recursion depth reached"
  | fuel + 1 => do
    let w ← word fuel
    if (← ahead).isOperator "|" then do
      skip 1
      return w :: (← patterns fuel)
    else do
      operator ")"
      return [w]

/-- The branches of a selection, up to its end. -/
def cases : Nat → Reader (List (List Word × Command))
  | 0 => fail "Maximum function recursion depth reached"
  | fuel + 1 => do
    newlines (← get).rest.length
    if (← ahead).isReserved "esac" then do
      skip 4
      return []
    else do
      if (← ahead).isOperator "(" then skip 1
      let ps ← patterns fuel
      newlines (← get).rest.length
      let a ← ahead
      let b ← if a.isOperator ";;" || a.isReserved "esac" then pure [] else commands fuel
      newlines (← get).rest.length
      if (← ahead).isOperator ";;" then do
        skip 2
        return (ps, .sequence b) :: (← cases fuel)
      else do
        reserved "esac"
        return [(ps, .sequence b)]

/-- Commands joined by bars. -/
def pipeline : Nat → Reader Command
  | 0 => fail "Maximum function recursion depth reached"
  | fuel + 1 => do
    let negated := (← ahead).isReserved "!"
    if negated then skip 1
    let stages ← stages fuel
    match negated, stages with
    | false, [c] => return c
    | _, cs => return .pipeline negated cs

def stages : Nat → Reader (List Command)
  | 0 => fail "Maximum function recursion depth reached"
  | fuel + 1 => do
    let c ← command fuel
    if (← ahead).isOperator "|" then do
      skip 1
      newlines (← get).rest.length
      return c :: (← stages fuel)
    else return [c]

/-- Pipelines of which each depends on the success of those before. -/
def chain (before : Option (Command → Command)) : Nat → Reader Command
  | 0 => fail "Maximum function recursion depth reached"
  | fuel + 1 => do
    let p ← pipeline fuel
    let c := before.elim p fun f => f p
    let a ← ahead
    if a.isOperator "&&" then do
      skip 2
      newlines (← get).rest.length
      chain (some (.both c)) fuel
    else if a.isOperator "||" then do
      skip 2
      newlines (← get).rest.length
      chain (some (.either c)) fuel
    else return c

/-- A command with what ends it: whether another one may follow on the same line. -/
def ended : Nat → Reader (Command × Bool)
  | 0 => fail "Maximum function recursion depth reached"
  | fuel + 1 => do
    let c ← chain none fuel
    let a ← ahead
    if a.isOperator ";" then do
      skip 1
      return (c, true)
    else if a.isOperator "&" then do
      skip 1
      return (.background c, true)
    else return (c, false)

/-- The commands inside a compound one, of which there is at least one unless the text ends. -/
def commands : Nat → Reader (List Command)
  | 0 => fail "Maximum function recursion depth reached"
  | fuel + 1 => do
    newlines (← get).rest.length
    match ← ahead with
    | .nothing => return []
    | _ => do
      let (c, more) ← ended fuel
      let onNewLine := match ← ahead with
        | .newline => true
        | _ => false
      if more || onNewLine then do
        newlines (← get).rest.length
        if (← ahead).closes then return [c] else return c :: (← commands fuel)
      else return [c]

end

/-- Fuel enough for a text: a step of the reader never goes deeper than some levels per
character. -/
def fuelFor (cs : Octets) : Nat := 20 * cs.length + 40

/-- The commands up to the end of a line. -/
def lineFrom (fuel : Nat) : Nat → Reader (List Command)
  | 0 => return []
  | bound + 1 => do
    let (c, more) ← ended fuel
    match ← ahead with
    | .newline => do
      skip 1
      return [c]
    | .nothing => return [c]
    | _ => if more then return c :: (← lineFrom fuel bound) else unexpected none

/-- The next commands of a script, or nothing at its end. -/
def next : Reader (Option (List Command)) := do
  let cs := (← get).rest
  newlines cs.length
  match ← ahead with
  | .nothing => return none
  | _ => return some (← lineFrom (fuelFor cs) cs.length)

end Reader

end Fanout.Shell
