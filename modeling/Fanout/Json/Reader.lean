import Fanout.Json.Tree

/-!
# Reading JSON

A reader over characters. Whole numbers that fit 64 bits are kept exactly; all others become
doubles, computed from the leading digits that fit 64 bits and a power of ten. Main fact about the
number of characters: every part read is shorter than what it was read from, so as much fuel as
there are characters is enough.
-/
namespace Fanout.Json

def isSpace (c : Char) : Bool :=
  c == ' ' || c == '\n' || c == '\t' || c == '\r'

def skipSpace (cs : List Char) : List Char :=
  cs.dropWhile isSpace

/-- The value of a digit of base sixteen. -/
def hexValue (c : Char) : Option Nat :=
  let n := c.toNat
  if 48 ≤ n ∧ n ≤ 57 then some (n - 48)
  else if 97 ≤ n ∧ n ≤ 102 then some (n - 87)
  else if 65 ≤ n ∧ n ≤ 70 then some (n - 55)
  else none

/-- The number written by four digits of base sixteen. -/
def hexNumber (a b c d : Char) : Option Nat := do
  let w ← hexValue a
  let x ← hexValue b
  let y ← hexValue c
  let z ← hexValue d
  return ((w * 16 + x) * 16 + y) * 16 + z

/-- What a letter after a backslash stands for, other than a number. -/
def simpleEscape : Char → Option Char
  | '"' => some '"'
  | '\\' => some '\\'
  | '/' => some '/'
  | 'b' => some '\x08'
  | 'f' => some '\x0c'
  | 'n' => some '\n'
  | 'r' => some '\r'
  | 't' => some '\t'
  | _ => none

/-- A character as written between quotes: itself, or a number of sixteen bits. -/
inductive Piece where
  | char (c : Char)
  | unit (n : Nat)

/-- The pieces up to the closing quote, and what follows it; nothing if they are not well formed. -/
def readPieces : List Char → Option (List Piece × List Char)
  | [] => none
  | '"' :: cs => some ([], cs)
  | '\\' :: 'u' :: a :: b :: c :: d :: cs =>
    match hexNumber a b c d with
    | none => none
    | some n => (readPieces cs).map fun (ps, rest) => (.unit n :: ps, rest)
  | '\\' :: e :: cs =>
    match simpleEscape e with
    | some c => (readPieces cs).map fun (ps, rest) => (.char c :: ps, rest)
    | none => none
  | c :: cs =>
    if c.toNat < 0x20 then none
    else (readPieces cs).map fun (ps, rest) => (.char c :: ps, rest)

/-- The characters of some pieces. Two halves of a surrogate pair are one character; a half on its
own is none. -/
def joinPieces : List Piece → Option (List Char)
  | [] => some []
  | .char c :: ps => (joinPieces ps).map (c :: ·)
  | .unit n :: .unit m :: ps =>
    if n < 0xD800 ∨ 0xDFFF < n then (joinPieces (.unit m :: ps)).map (Char.ofNat n :: ·)
    else if n < 0xDC00 ∧ 0xDC00 ≤ m ∧ m ≤ 0xDFFF then
      let code := 0x10000 + (n - 0xD800) * 0x400 + (m - 0xDC00)
      (joinPieces ps).map (Char.ofNat code :: ·)
    else none
  | .unit n :: ps =>
    if n < 0xD800 ∨ 0xDFFF < n then (joinPieces ps).map (Char.ofNat n :: ·) else none

/-- The text up to the closing quote as a part of a tree. -/
def readQuoted (cs : List Char) : Tree × List Char :=
  match readPieces cs with
  | none => (.cut, [])
  | some (ps, rest) =>
    match joinPieces ps with
    | some text => (.str (String.ofList text), rest)
    | none => (.unreadable, rest)

def digitValue (c : Char) : Nat := c.toNat - 48

/-- The digits in front, and the rest. -/
def takeDigits (cs : List Char) : List Char × List Char :=
  (cs.takeWhile Char.isDigit, cs.dropWhile Char.isDigit)

/-- The leading digits of a whole number that fit 64 bits, and how many more there are. -/
def leading : Nat → List Char → Nat × Nat
  | sig, [] => (sig, 0)
  | sig, c :: cs =>
    let sig' := sig * 10 + digitValue c
    if sig' < UInt64.size then leading sig' cs else (sig, cs.length + 1)

/-- Goes on with the digits after the point as long as 64 bits hold them; the number of digits
used comes with the result. -/
def decimals : Nat → List Char → Nat × Nat
  | sig, [] => (sig, 0)
  | sig, c :: cs =>
    let sig' := sig * 10 + digitValue c
    if sig' < UInt64.size then
      let (s, used) := decimals sig' cs
      (s, used + 1)
    else (sig, 0)

/-- A power of ten as a double. -/
def floatPow (n : Nat) : Float := Float.ofScientific 1 false n

/-- A double times a power of ten, in steps of at most `10 ^ 308`; nothing beyond all doubles. -/
def scale : Nat → Float → Int → Option Float
  | 0, f, _ => some f
  | fuel + 1, f, e =>
    if e.natAbs ≤ 308 then
      if 0 ≤ e then
        let g := f * floatPow e.natAbs
        if g.isInf then none else some g
      else some (f / floatPow e.natAbs)
    else if f == 0 then some f
    else if 0 ≤ e then none
    else scale fuel (f / floatPow 308) (e + 308)

def signed (negative : Bool) (f : Float) : Float := if negative then -f else f

/-- Exponents are kept within 32 bits. -/
def clampExponent (e : Int) : Int :=
  if e < Int32.minValue.toInt then Int32.minValue.toInt
  else if Int32.maxValue.toInt < e then Int32.maxValue.toInt
  else e

/-- The double of some leading digits and a power of ten. -/
def floatOf (negative : Bool) (sig : Nat) (e : Int) : Option Float :=
  (scale 10000000 sig.toFloat e).map (signed negative)

/-- The parts of a number as written. -/
structure Numeral where
  negative : Bool
  whole : List Char
  fraction : Option (List Char)
  exponent : Option (Bool × List Char)

/-- The value of a number as written; nothing if it lies beyond all doubles. -/
def Numeral.value? (n : Numeral) : Option Number :=
  let (sig, dropped) := leading 0 n.whole
  match n.fraction, n.exponent with
  | none, none =>
    if dropped = 0 then
      if n.negative then
        if 0 < sig ∧ 2 * sig ≤ UInt64.size then some (.negative (-(sig : Int)))
        else some (.float (-sig.toFloat))
      else some (.nat sig)
    else (floatOf n.negative sig dropped).map .float
  | fraction, exponent =>
    let (sig, used) := fraction.elim (sig, 0) (decimals sig)
    let base : Int := dropped - used
    match exponent with
    | none => (floatOf n.negative sig base).map .float
    | some (down, digits) =>
      let e : Int := digits.foldl (fun a c => a * 10 + digitValue c) (0 : Nat)
      if Int32.maxValue.toInt < e then
        if sig ≠ 0 ∧ !down then none else some (.float (signed n.negative 0))
      else
        let total := if down then base - e else base + e
        (floatOf n.negative sig (clampExponent total)).map .float

/-- A number as written, and what follows it; nothing if it is not well formed. -/
def readNumeral (cs : List Char) : Option (Numeral × List Char) :=
  let (negative, cs) := match cs with
    | '-' :: cs => (true, cs)
    | cs => (false, cs)
  let (whole, cs) := takeDigits cs
  if whole.isEmpty ∨ (whole.length ≠ 1 ∧ whole.head? = some '0') then none
  else
    let point : Option (Option (List Char) × List Char) := match cs with
      | '.' :: cs =>
        let (digits, cs) := takeDigits cs
        if digits.isEmpty then none else some (some digits, cs)
      | cs => some (none, cs)
    match point with
    | none => none
    | some (fraction, cs) =>
      match cs with
      | c :: cs' =>
        if c = 'e' ∨ c = 'E' then
          let (down, cs') := match cs' with
            | '-' :: r => (true, r)
            | '+' :: r => (false, r)
            | r => (false, r)
          let (digits, cs') := takeDigits cs'
          if digits.isEmpty then none else some (⟨negative, whole, fraction, some (down, digits)⟩, cs')
        else some (⟨negative, whole, fraction, none⟩, cs)
      | [] => some (⟨negative, whole, fraction, none⟩, [])

/-- Drops a word from the front. -/
def dropWord (word cs : List Char) : Option (List Char) :=
  if word.isPrefixOf cs then some (cs.drop word.length) else none

mutual

/-- The value at the front of a text, and what follows it. -/
def readTree : Nat → List Char → Tree × List Char
  | 0, cs => (.cut, cs)
  | fuel + 1, cs =>
    match skipSpace cs with
    | [] => (.cut, [])
    | '"' :: cs => readQuoted cs
    | '[' :: cs =>
      match skipSpace cs with
      | ']' :: rest => (.arr .nil, rest)
      | cs =>
        let (items, rest) := readItems fuel cs
        (.arr items, rest)
    | '\x7b' :: cs =>
      match skipSpace cs with
      | '\x7d' :: rest => (.obj .nil, rest)
      | cs =>
        let (members, rest) := readMembers fuel cs
        (.obj members, rest)
    | 'n' :: cs => (dropWord ['u', 'l', 'l'] cs).elim (.cut, []) fun rest => (.null, rest)
    | 't' :: cs => (dropWord ['r', 'u', 'e'] cs).elim (.cut, []) fun rest => (.bool true, rest)
    | 'f' :: cs =>
      (dropWord ['a', 'l', 's', 'e'] cs).elim (.cut, []) fun rest => (.bool false, rest)
    | c :: cs =>
      match readNumeral (c :: cs) with
      | none => (.cut, [])
      | some (n, rest) => (n.value?.elim .unreadable .number, rest)

/-- One or more items, up to the closing bracket. -/
def readItems : Nat → List Char → Items × List Char
  | 0, cs => (.cut, cs)
  | fuel + 1, cs =>
    let (head, rest) := readTree fuel cs
    match head with
    | .cut => (.cons .cut .cut, [])
    | head =>
      match skipSpace rest with
      | ']' :: rest => (.cons head .nil, rest)
      | ',' :: rest =>
        match skipSpace rest with
        | ']' :: _ => (.cons head .cut, [])
        | rest =>
          let (tail, rest) := readItems fuel rest
          (.cons head tail, rest)
      | _ => (.cons head .cut, [])

/-- One or more members, each with a quoted text as its key, up to the closing brace. -/
def readMembers : Nat → List Char → Members × List Char
  | 0, cs => (.cut, cs)
  | fuel + 1, cs =>
    match skipSpace cs with
    | '"' :: cs =>
      let (key, rest) := readQuoted cs
      match skipSpace rest with
      | ':' :: rest =>
        let (value, rest) := readTree fuel rest
        match skipSpace rest with
        | '\x7d' :: rest => (.cons key value .nil, rest)
        | ',' :: rest =>
          match skipSpace rest with
          | '\x7d' :: _ => (.cons key value .cut, [])
          | rest =>
            let (tail, rest) := readMembers fuel rest
            (.cons key value tail, rest)
        | _ => (.cons key value .cut, [])
      | _ => (.cons key .cut .cut, [])
    | _ => (.cut, [])

end

/-- A whole text: the value in it, and whether nothing but space follows. -/
structure Document where
  tree : Tree
  clean : Bool

def readDocument (s : String) : Document :=
  let cs := s.toList
  let (tree, rest) := readTree (cs.length + 1) cs
  ⟨tree, (skipSpace rest).isEmpty⟩

end Fanout.Json
