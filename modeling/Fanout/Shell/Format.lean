import Fanout.Shell.Octets

/-!
# Escapes and formats

What a shell prints: text in which a backslash introduces a character, and formats with places for
arguments, which are used again while arguments are left.
-/
namespace Fanout.Shell.Format

def isOctal (c : Char) : Bool := '0' ≤ c && c ≤ '7'

/-- The character behind a backslash, and how many characters it takes. Where there is none, the
backslash stands for itself. -/
def escape (cs : Octets) : Char × Nat :=
  match cs with
  | '\\' :: _ => ('\\', 1)
  | 'a' :: _ => (Char.ofNat 7, 1)
  | 'b' :: _ => (Char.ofNat 8, 1)
  | 'e' :: _ => (Char.ofNat 27, 1)
  | 'f' :: _ => (Char.ofNat 12, 1)
  | 'n' :: _ => ('\n', 1)
  | 'r' :: _ => ('\r', 1)
  | 't' :: _ => ('\t', 1)
  | 'v' :: _ => (Char.ofNat 11, 1)
  | _ =>
    let digits := (cs.take 3).takeWhile isOctal
    if digits.isEmpty then ('\\', 0)
    else
      let n := digits.foldl (fun n c => 8 * n + (c.toNat - '0'.toNat)) 0
      (Char.ofNat (n % 256), digits.length)

/-- A text with its escapes replaced, and whether it ends the output. -/
def unescape : Nat → Octets → Octets × Bool
  | 0, _ => ([], false)
  | _ + 1, [] => ([], false)
  | _ + 1, '\\' :: 'c' :: _ => ([], true)
  | fuel + 1, '\\' :: cs =>
    let cs := match cs with
      | '0' :: d :: rest => if isOctal d then d :: rest else cs
      | cs => cs
    let (c, n) := escape cs
    let (rest, stop) := unescape fuel (cs.drop n)
    (c :: rest, stop)
  | fuel + 1, c :: cs =>
    let (rest, stop) := unescape fuel cs
    (c :: rest, stop)

/-- What is printed of some words: with blanks between them and a newline behind them. -/
def echo (args : List Octets) : Octets :=
  let (quiet, words) := match args with
    | ['-', 'n'] :: rest => (true, rest)
    | args => (false, args)
  let rec go : List Octets → Octets
    | [] => if quiet then [] else ['\n']
    | [w] =>
      let (text, stop) := unescape (w.length + 1) w
      text ++ if stop || quiet then [] else ['\n']
    | w :: ws =>
      let (text, stop) := unescape (w.length + 1) w
      text ++ if stop then [] else ' ' :: go ws
  go words

/-- A place in a format. -/
structure Place where
  minus : Bool
  plus : Bool
  space : Bool
  alternate : Bool
  zero : Bool
  width : Nat
  precision : Option Nat

def Place.bare : Place := ⟨false, false, false, false, false, 0, none⟩

/-- Fills a text up to a place's width. -/
def Place.fill (p : Place) (s : Octets) : Octets :=
  let pad := List.replicate (p.width - s.length) ' '
  if p.minus then s ++ pad else pad ++ s

/-- Fills a number up, perhaps with zeros behind its sign. -/
def Place.number (p : Place) (sign digits : Octets) : Octets :=
  let digits := List.replicate (p.precision.getD 1 - digits.length) '0' ++ digits
  let zeros := if p.zero && !p.minus && p.precision.isNone then
      List.replicate (p.width - sign.length - digits.length) '0'
    else []
  p.fill (sign ++ zeros ++ digits)

def Place.flags (p : Place) : Octets → Place × Octets
  | '-' :: cs => Place.flags { p with minus := true } cs
  | '+' :: cs => Place.flags { p with plus := true } cs
  | ' ' :: cs => Place.flags { p with space := true } cs
  | '#' :: cs => Place.flags { p with alternate := true } cs
  | '0' :: cs => Place.flags { p with zero := true } cs
  | cs => (p, cs)

def natOf (cs : Octets) : Nat :=
  cs.foldl (fun n c => 10 * n + (c.toNat - '0'.toNat)) 0

/-- The value of a digit. -/
def digitValue (c : Char) : Nat :=
  if c.isDigit then c.toNat - '0'.toNat
  else if 'a' ≤ c ∧ c ≤ 'z' then c.toNat - 'a'.toNat + 10
  else if 'A' ≤ c ∧ c ≤ 'Z' then c.toNat - 'A'.toNat + 10
  else 99

/-- The number at the beginning of a text, in the base that its first characters tell, and what is
left of the text. -/
def leadingNumber (s : Octets) : Int × Octets :=
  let s := s.dropWhile fun c => c = ' ' ∨ c = '\t' ∨ c = '\n'
  let (negative, s) := match s with
    | '-' :: cs => (true, cs)
    | '+' :: cs => (false, cs)
    | cs => (false, cs)
  let (base, s) := match s with
    | '0' :: x :: d :: cs =>
      if (x = 'x' ∨ x = 'X') ∧ digitValue d < 16 then (16, d :: cs) else (8, '0' :: x :: d :: cs)
    | '0' :: cs => (8, '0' :: cs)
    | cs => (10, cs)
  let digits := s.takeWhile fun c => digitValue c < base
  let n : Int := (digits.foldl (fun n c => base * n + digitValue c) 0 : Nat)
  (if negative then -n else n, s.drop digits.length)

/-- The number an argument stands for, and what is wrong with it if it is none. A quote stands for
the code of what follows it. -/
def argument (s : Octets) : Int × Option String :=
  match s with
  | [] => (0, none)
  | '"' :: c :: _ => (c.toNat, none)
  | '\'' :: c :: _ => (c.toNat, none)
  | s =>
    let (n, rest) := leadingNumber s
    (n, if rest.isEmpty then none
      else if rest.length = s.length then some ": expected numeric value"
      else some ": not completely converted")

/-- What a format prints, with the arguments that it leaves. -/
structure Printed where
  text : Octets
  rest : List Octets
  stop : Bool
  /-- What was wrong, in words. -/
  faults : List String

def digitsIn (base n : Nat) : Octets := Nat.toDigits base n

/-- Prints one argument by the letter of its place. -/
def convert (p : Place) (letter : Char) (arg : Octets) : Option (Octets × Bool × List String) :=
  let faults := fun (f : Option String) => f.toList.map fun t => arg.toText ++ t
  let unsigned := fun (base : Nat) (front : Octets) (upper : Bool) =>
    let (n, f) := argument arg
    let ds := digitsIn base (n.emod UInt64.size).toNat
    let ds := if upper then ds.map Char.toUpper else ds
    some (p.number (if p.alternate ∧ n ≠ 0 then front else []) ds, false,
      faults f)
  match letter with
  | 's' => some (p.fill (p.precision.elim arg arg.take), false, [])
  | 'c' => some (p.fill (arg.take 1), false, [])
  | 'b' =>
    let (text, stop) := unescape (arg.length + 1) arg
    some (p.fill (p.precision.elim text text.take), stop, [])
  | 'd' | 'i' =>
    let (n, f) := argument arg
    let sign := if n < 0 then ['-'] else if p.plus then ['+'] else if p.space then [' '] else []
    some (p.number sign (digitsIn 10 n.natAbs), false, faults f)
  | 'u' => unsigned 10 [] false
  | 'o' => unsigned 8 ['0'] false
  | 'x' => unsigned 16 ['0', 'x'] false
  | 'X' => unsigned 16 ['0', 'X'] true
  | _ => none

/-- Prints a format once. -/
def once : Nat → Octets → List Octets → Printed
  | 0, _, args => ⟨[], args, true, []⟩
  | _ + 1, [], args => ⟨[], args, false, []⟩
  | fuel + 1, '%' :: '%' :: cs, args =>
    let r := once fuel cs args
    { r with text := '%' :: r.text }
  | fuel + 1, '%' :: cs, args =>
    let (p, cs) := Place.bare.flags cs
    let starWidth := cs.head? = some '*'
    let widthDigits := cs.takeWhile Char.isDigit
    let (p, cs, args) := if starWidth then
        let n := (argument (args.headD [])).1
        ({ p with width := n.natAbs, minus := p.minus || n < 0 }, cs.drop 1, args.drop 1)
      else ({ p with width := natOf widthDigits }, cs.drop widthDigits.length, args)
    let (p, cs) := match cs with
      | '.' :: cs =>
        let ds := cs.takeWhile Char.isDigit
        ({ p with precision := some (natOf ds) }, cs.drop ds.length)
      | cs => (p, cs)
    match cs with
    | [] => ⟨[], args, true, []⟩
    | letter :: cs =>
      match convert p letter (args.headD []) with
      | none => ⟨[], args, true, ["%" ++ letter.toString ++ ": invalid directive"]⟩
      | some (text, stop, faults) =>
        if stop then ⟨text, args.drop 1, true, faults⟩
        else
          let r := once fuel cs (args.drop 1)
          { r with text := text ++ r.text, faults := faults ++ r.faults }
  | fuel + 1, '\\' :: cs, args =>
    let (c, n) := escape cs
    let r := once fuel (cs.drop n) args
    { r with text := c :: r.text }
  | fuel + 1, c :: cs, args =>
    let r := once fuel cs args
    { r with text := c :: r.text }

/-- Prints a format until its arguments are used up. -/
def print (format : Octets) : Nat → List Octets → Octets × List String
  | 0, _ => ([], [])
  | fuel + 1, args =>
    let r := once (format.length + 1) format args
    if r.stop ∨ r.rest.isEmpty ∨ r.rest.length = args.length then (r.text, r.faults)
    else
      let (text, faults) := print format fuel r.rest
      (r.text ++ text, r.faults ++ faults)

end Fanout.Shell.Format
