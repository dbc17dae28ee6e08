import Fanout.Toml.Quoted
import Fanout.Toml.Scalar

/-!
# Reading TOML

A text is a sequence of lines: blank ones, headers, and pairs of a key and a value. Inside brackets
and braces a value may run over several lines. A text that breaks a rule holds nothing.
-/
namespace Fanout.Toml

def skipWhite (cs : List Char) : List Char := cs.dropWhile isWhite

/-- A comment up to the end of its line, if there is one; it holds no control characters. -/
def skipComment (cs : List Char) : Option (List Char) :=
  match cs with
  | '#' :: rest =>
    let text := rest.takeWhile fun c => c ≠ '\n' && c ≠ '\r'
    if text.any isControl then none else some (rest.drop text.length)
  | cs => some cs

/-- The rest of a line, with nothing on it but a comment. -/
def endLine (cs : List Char) : Option (List Char) := do
  let cs ← skipComment (skipWhite cs)
  match cs with
  | [] => some []
  | '\n' :: rest => some rest
  | '\r' :: '\n' :: rest => some rest
  | _ => none

/-- White space, comments and newlines between the parts of a value. -/
def skipGaps : Nat → List Char → Option (List Char)
  | 0, cs => some cs
  | fuel + 1, cs => do
    let cs ← skipComment (skipWhite cs)
    match cs with
    | '\n' :: rest => skipGaps fuel rest
    | '\r' :: '\n' :: rest => skipGaps fuel rest
    | cs => some cs

def isBareKeyChar (c : Char) : Bool :=
  c.isAlphanum || c == '-' || c == '_'

/-- One part of a key: a bare word, or a text on one line. -/
def readKeyPart (cs : List Char) : Option (String × List Char) :=
  match cs with
  | '"' :: '"' :: '"' :: _ => none
  | '\'' :: '\'' :: '\'' :: _ => none
  | '"' :: _ => readText cs
  | '\'' :: _ => readText cs
  | cs =>
    let word := cs.takeWhile isBareKeyChar
    if word.isEmpty then none else some (String.ofList word, cs.drop word.length)

/-- How deep values may be nested, and how many parts a key may have. -/
def maxNesting : Nat := 80

/-- The parts of a key, with points between them. -/
def readKeyParts : Nat → List Char → Option (List String × List Char)
  | 0, _ => none
  | fuel + 1, cs => do
    let (part, rest) ← readKeyPart (skipWhite cs)
    match skipWhite rest with
    | '.' :: rest =>
      let (parts, rest) ← readKeyParts fuel rest
      return (part :: parts, rest)
    | rest => return ([part], rest)

/-- A key, and what follows it behind white space. -/
def readKey (cs : List Char) : Option (List String × List Char) :=
  (readKeyParts (cs.length + 1) cs).filter fun (parts, _) => parts.length ≤ maxNesting

def isWordChar (c : Char) : Bool :=
  c.isAlphanum || c == '+' || c == '-' || c == '_' || c == '.' || c == ':'

/-- Whether a time follows a date and one space. -/
def timeFollows (word rest : List Char) : Bool :=
  word.length == 10 && (dropDate word).isSome &&
    match rest with
    | ' ' :: a :: b :: ':' :: _ => a.isDigit && b.isDigit
    | _ => false

/-- A bare value, and what follows it. -/
def readScalar (cs : List Char) : Option (Value × List Char) :=
  let word := cs.takeWhile isWordChar
  let rest := cs.drop word.length
  if timeFollows word rest then
    let time := (rest.drop 1).takeWhile isWordChar
    (scalar? (word ++ ' ' :: time)).map fun v => (v, rest.drop (time.length + 1))
  else (scalar? word).map fun v => (v, rest)

mutual

/-- A value at a depth of nesting, and what follows it. -/
def readValue (depth : Nat) : Nat → List Char → Option (Value × List Char)
  | 0, _ => none
  | fuel + 1, cs =>
    match cs with
    | '[' :: cs =>
      if maxNesting ≤ depth then none
      else (readItems (depth + 1) fuel cs).map fun (items, rest) => (.array false items, rest)
    | '\x7b' :: cs =>
      if maxNesting ≤ depth then none
      else (readPairs (depth + 1) fuel cs []).map fun (es, rest) => (.table .inlined es, rest)
    | '"' :: _ => (readText cs).map fun (s, rest) => (.str s, rest)
    | '\'' :: _ => (readText cs).map fun (s, rest) => (.str s, rest)
    | cs => readScalar cs

/-- The items of an array up to its end. -/
def readItems (depth : Nat) : Nat → List Char → Option (List Value × List Char)
  | 0, _ => none
  | fuel + 1, cs => do
    let cs ← skipGaps (cs.length + 1) cs
    match cs with
    | ']' :: rest => return ([], rest)
    | cs =>
      let (v, rest) ← readValue depth fuel cs
      let rest ← skipGaps (rest.length + 1) rest
      match rest with
      | ']' :: rest => return ([v], rest)
      | ',' :: rest =>
        let (vs, rest) ← readItems depth fuel rest
        return (v :: vs, rest)
      | _ => none

/-- The pairs of a table written as a value, up to its end, added to those before them. -/
def readPairs (depth : Nat) : Nat → List Char → Entries → Option (Entries × List Char)
  | 0, _, _ => none
  | fuel + 1, cs, es => do
    let cs ← skipGaps (cs.length + 1) cs
    match cs with
    | '\x7d' :: rest => return (es, rest)
    | cs =>
      let (parts, rest) ← readKey cs
      let rest ← skipGaps (rest.length + 1) rest
      match rest with
      | '=' :: rest =>
        let rest ← skipGaps (rest.length + 1) rest
        let (v, rest) ← readValue depth fuel rest
        let es ← addPair parts.dropLast (parts.getLastD "") v .header es
        let rest ← skipGaps (rest.length + 1) rest
        match rest with
        | '\x7d' :: rest => return (es, rest)
        | ',' :: rest => readPairs depth fuel rest es
        | _ => none
      | _ => none

end

/-- A text read so far: all pairs, and the header they go under. -/
structure Draft where
  entries : Entries
  header : List String

/-- Adds a pair under the current header. -/
def Draft.add (d : Draft) (parts : List String) (v : Value) : Option Draft :=
  let put := addPair parts.dropLast (parts.getLastD "") v
  (descend false d.header put .header d.entries).map fun entries => { d with entries }

/-- Goes on under a header. -/
def Draft.enter (d : Draft) (parts : List String) (item : Bool) : Option Draft :=
  let enter := if item then openItem else openTable
  (enter parts.dropLast (parts.getLastD "") d.entries).map fun entries => ⟨entries, parts⟩

/-- Reads one line after the other. -/
def readLines : Nat → List Char → Draft → Option Draft
  | 0, _, _ => none
  | _ + 1, [], d => some d
  | fuel + 1, cs, d =>
    match skipWhite cs with
    | [] => some d
    | '[' :: '[' :: cs => do
      let (parts, rest) ← readKey cs
      match rest with
      | ']' :: ']' :: rest =>
        let d ← d.enter parts true
        let rest ← endLine rest
        readLines fuel rest d
      | _ => none
    | '[' :: cs => do
      let (parts, rest) ← readKey cs
      match rest with
      | ']' :: rest =>
        let d ← d.enter parts false
        let rest ← endLine rest
        readLines fuel rest d
      | _ => none
    | '#' :: cs => do
      let rest ← endLine ('#' :: cs)
      readLines fuel rest d
    | '\n' :: rest => readLines fuel rest d
    | '\r' :: '\n' :: rest => readLines fuel rest d
    | cs => do
      let (parts, rest) ← readKey cs
      match rest with
      | '=' :: rest =>
        let rest := skipWhite rest
        let (v, rest) ← readValue 0 (rest.length + 1) rest
        let d ← d.add parts v
        let rest ← endLine rest
        readLines fuel rest d
      | _ => none

/-- The pairs of a whole text, which may start with a byte order mark. -/
def read? (s : String) : Option Entries :=
  let cs := match s.toList with
    | '\uFEFF' :: cs => cs
    | cs => cs
  (readLines (cs.length + 1) cs ⟨[], []⟩).map Draft.entries

end Fanout.Toml
