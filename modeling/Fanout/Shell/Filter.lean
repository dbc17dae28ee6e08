import Fanout.Shell.Octets

/-!
# Filters

What the utilities for texts make of their input: counts, translated characters, the first or last
lines, lines in order, lines once, and rows of numbers.
-/
namespace Fanout.Shell.Filter

/-- Lines as text, each with a newline. -/
def unlines (ls : List Octets) : Octets := ls.flatMap fun l => l ++ ['\n']

def isBlank (c : Char) : Bool := c ∈ [' ', '\t', '\n', '\r', Char.ofNat 11, Char.ofNat 12]

/-- The number of words of a text. -/
def wordCount (text : Octets) : Nat :=
  let starts := fun (acc : Nat × Bool) (c : Char) =>
    (if isBlank c || acc.2 then acc.1 else acc.1 + 1, !isBlank c)
  (text.foldl starts (0, false)).1

/-- Numbers of lines, words and octets, as far as they are asked for; all if none is. -/
def counts (flags : List Char) (text : Octets) : List Nat :=
  let flags := if flags.isEmpty then ['l', 'w', 'c'] else flags
  (if 'l' ∈ flags then [text.count '\n'] else []) ++
    (if 'w' ∈ flags then [wordCount text] else []) ++
    if 'c' ∈ flags || 'm' ∈ flags then [text.length] else []

/-- A row of counts, with the name of what is counted. -/
def countRow (width : Nat) (ns : List Nat) (name : Option Octets) : Octets :=
  let cell := fun (n : Nat) =>
    let ds := Octets.ofNat n
    List.replicate (width - ds.length) ' ' ++ ds
  [' '].intercalate (ns.map cell) ++ (name.elim [] fun n => ' ' :: n) ++ ['\n']

/-! ## Sets of characters -/

def classes : List (String × (Char → Bool)) :=
  [("[:upper:]", Char.isUpper), ("[:lower:]", Char.isLower), ("[:digit:]", Char.isDigit),
    ("[:alpha:]", Char.isAlpha), ("[:alnum:]", Char.isAlphanum), ("[:space:]", isBlank),
    ("[:blank:]", fun c => c == ' ' || c == '\t')]

def octetsWhere (p : Char → Bool) : Octets :=
  ((List.range 256).map Char.ofNat).filter p

/-- One character of a set, which a backslash may introduce. -/
def setChar : Octets → Option (Char × Octets)
  | '\\' :: 'n' :: cs => some ('\n', cs)
  | '\\' :: 't' :: cs => some ('\t', cs)
  | '\\' :: 'r' :: cs => some ('\r', cs)
  | '\\' :: '\\' :: cs => some ('\\', cs)
  | '\\' :: cs =>
    let ds := (cs.take 3).takeWhile fun c => '0' ≤ c && c ≤ '7'
    if ds.isEmpty then
      match cs with
      | [] => some ('\\', [])
      | c :: cs => some (c, cs)
    else
      let n := ds.foldl (fun n c => 8 * n + (c.toNat - '0'.toNat)) 0
      some (Char.ofNat (n % 256), cs.drop ds.length)
  | c :: cs => some (c, cs)
  | [] => none

/-- The characters a set lists, with its ranges and classes written out. -/
def setOf : Nat → Octets → Octets
  | 0, _ => []
  | fuel + 1, cs =>
    match classes.find? fun k => k.1.toList.isPrefixOf cs with
    | some k => octetsWhere k.2 ++ setOf fuel (cs.drop k.1.length)
    | none =>
      match setChar cs with
      | none => []
      | some (a, '-' :: rest) =>
        match setChar rest with
        | some (b, rest) =>
          octetsWhere (fun c => a ≤ c && c ≤ b) ++ setOf fuel rest
        | none => [a, '-']
      | some (a, rest) => a :: setOf fuel rest

def charSet (cs : Octets) : Octets := setOf (cs.length + 1) cs

/-- Keeps one of equal neighbours that are in a set. -/
def squeeze (set : Octets) : Octets → Octets
  | a :: b :: cs =>
    if a = b ∧ a ∈ set then squeeze set (b :: cs) else a :: squeeze set (b :: cs)
  | cs => cs

/-- Replaces the characters of one set by those of another, whose last one stands in for more. -/
def translate (source target : Octets) (text : Octets) : Octets :=
  text.map fun c =>
    match (source.reverse.findIdx? (· == c)).map fun i => source.length - 1 - i with
    | some i => (target[i]?).getD (target.getLast?.getD c)
    | none => c

/-! ## Lines -/

/-- Puts a line into a sorted list, behind those that do not come after it. -/
def insertLine (after : Octets → Octets → Bool) (l : Octets) : List Octets → List Octets
  | [] => [l]
  | m :: ms => if after m l then l :: m :: ms else m :: insertLine after l ms

def numeric (l : Octets) : Int :=
  let cs := l.dropWhile isBlank
  let (negative, cs) := match cs with
    | '-' :: cs => (true, cs)
    | cs => (false, cs)
  let n : Int := ((cs.takeWhile Char.isDigit).foldl
    (fun n c => 10 * n + (c.toNat - '0'.toNat)) 0 : Nat)
  if negative then -n else n

/-- Whether one line comes after another. -/
def comesAfter (numerically reversed : Bool) (a b : Octets) : Bool :=
  let plain := fun (a b : Octets) =>
    if numerically then
      decide (numeric b < numeric a) || (numeric a == numeric b && decide (b < a))
    else decide (b < a)
  if reversed then plain b a else plain a b

def sortLines (numerically reversed once : Bool) (ls : List Octets) : List Octets :=
  let sorted := ls.foldl (fun acc l => insertLine (comesAfter numerically reversed) l acc) []
  if once then
    sorted.foldr (fun l acc => if acc.head? = some l then acc else l :: acc) []
  else sorted

/-- Equal neighbours as one line with their number. -/
def runs : List Octets → List (Octets × Nat)
  | [] => []
  | l :: ls =>
    match runs ls with
    | (m, n) :: rest => if l = m then (m, n + 1) :: rest else (l, 1) :: (m, n) :: rest
    | [] => [(l, 1)]

/-- Numbers from one to another by a step. -/
def sequence (first step last : Int) : List Int :=
  let n := if 0 < step then (last - first).fdiv step + 1
    else if step < 0 then (first - last).fdiv (-step) + 1 else 0
  (List.range n.toNat).map fun (i : Nat) => first + step * (i : Int)

end Fanout.Shell.Filter
