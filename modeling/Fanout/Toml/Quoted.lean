import Fanout.Text.Line

/-!
# Texts in TOML

Texts between quotes. Between double quotes a backslash starts an escape, between single quotes
nothing does; either kind of quote three times over lets a text run over several lines, a newline
right after the opening being no part of it.
-/
namespace Fanout.Toml

/-- Characters that a text on one line cannot hold. -/
def isControl (c : Char) : Bool :=
  (c.toNat < 0x20 && c ≠ '\t') || c.toNat == 0x7F

def isWhite (c : Char) : Bool := c == ' ' || c == '\t'

/-- The number written by some digits of base sixteen. -/
def hexOf (cs : List Char) : Option Nat :=
  cs.foldlM (fun n c =>
    let k := c.toNat
    if 48 ≤ k ∧ k ≤ 57 then some (n * 16 + (k - 48))
    else if 97 ≤ k ∧ k ≤ 102 then some (n * 16 + (k - 87))
    else if 65 ≤ k ∧ k ≤ 70 then some (n * 16 + (k - 55))
    else none) 0

/-- The character of a code point, if it is one. -/
def charOf (n : Nat) : Option Char :=
  if n < 0xD800 ∨ (0xDFFF < n ∧ n < 0x110000) then some (Char.ofNat n) else none

/-- What follows a backslash: a character, and how many characters were read. -/
def escape : List Char → Option (Char × Nat)
  | 'b' :: _ => some ('\x08', 1)
  | 't' :: _ => some ('\t', 1)
  | 'n' :: _ => some ('\n', 1)
  | 'f' :: _ => some ('\x0c', 1)
  | 'r' :: _ => some ('\r', 1)
  | 'e' :: _ => some ('\x1b', 1)
  | '"' :: _ => some ('"', 1)
  | '\\' :: _ => some ('\\', 1)
  | 'x' :: cs => code 2 cs
  | 'u' :: cs => code 4 cs
  | 'U' :: cs => code 8 cs
  | _ => none
where
  code (n : Nat) (cs : List Char) : Option (Char × Nat) :=
    if cs.length < n then none
    else ((hexOf (cs.take n)).bind charOf).map fun c => (c, n + 1)

/-- Without the white space and the ends of lines in front. -/
def dropBlankLines : List Char → List Char
  | '\r' :: '\n' :: cs => dropBlankLines cs
  | c :: cs => if isWhite c || c == '\n' then dropBlankLines cs else c :: cs
  | [] => []

/-- Whether only white space stands before the end of the line. -/
def endsLine (cs : List Char) : Bool :=
  match cs.dropWhile isWhite with
  | '\n' :: _ => true
  | '\r' :: '\n' :: _ => true
  | _ => false

/-- How many times a character stands in front. -/
def countFront (c : Char) (cs : List Char) : Nat :=
  (cs.takeWhile (· == c)).length

/-- A text on one line, up to the closing quote. -/
def readLine (quote : Char) (escapes : Bool) : Nat → List Char → Option (List Char × List Char)
  | 0, _ => none
  | _ + 1, [] => none
  | fuel + 1, c :: cs =>
    if c = quote then some ([], cs)
    else if escapes ∧ c = '\\' then
      match escape cs with
      | none => none
      | some (e, n) => (readLine quote escapes fuel (cs.drop n)).map fun (t, r) => (e :: t, r)
    else if isControl c then none
    else (readLine quote escapes fuel cs).map fun (t, r) => (c :: t, r)

/-- A text over several lines, up to the closing quotes; up to two quotes before them belong to
the text. -/
def readBlock (quote : Char) (escapes : Bool) : Nat → List Char → Option (List Char × List Char)
  | 0, _ => none
  | _ + 1, [] => none
  | fuel + 1, c :: cs =>
    if c = quote then
      let n := countFront quote (c :: cs)
      if n < 3 then (readBlock quote escapes fuel cs).map fun (t, r) => (c :: t, r)
      else if n ≤ 5 then some (List.replicate (n - 3) quote, (c :: cs).drop n)
      else none
    else if escapes ∧ c = '\\' then
      if endsLine cs then readBlock quote escapes fuel (dropBlankLines cs)
      else match escape cs with
        | none => none
        | some (e, n) => (readBlock quote escapes fuel (cs.drop n)).map fun (t, r) => (e :: t, r)
    else if c = '\n' then (readBlock quote escapes fuel cs).map fun (t, r) => (c :: t, r)
    else if c = '\r' then
      match cs with
      | '\n' :: rest =>
        (readBlock quote escapes fuel rest).map fun (t, r) => ('\r' :: '\n' :: t, r)
      | _ => none
    else if isControl c then none
    else (readBlock quote escapes fuel cs).map fun (t, r) => (c :: t, r)

/-- A newline right after the opening of a text over several lines is no part of it. -/
def dropFirstNewline : List Char → List Char
  | '\n' :: cs => cs
  | '\r' :: '\n' :: cs => cs
  | cs => cs

/-- The text that starts with a quote, and what follows it. -/
def readText : List Char → Option (String × List Char)
  | '"' :: '"' :: '"' :: cs => block '"' true cs
  | '\'' :: '\'' :: '\'' :: cs => block '\'' false cs
  | '"' :: cs => single '"' true cs
  | '\'' :: cs => single '\'' false cs
  | _ => none
where
  block (quote : Char) (escapes : Bool) (cs : List Char) : Option (String × List Char) :=
    (readBlock quote escapes (cs.length + 1) (dropFirstNewline cs)).map fun (t, r) =>
      (String.ofList t, r)
  single (quote : Char) (escapes : Bool) (cs : List Char) : Option (String × List Char) :=
    (readLine quote escapes (cs.length + 1) cs).map fun (t, r) => (String.ofList t, r)

end Fanout.Toml
