import Fanout.Toml.Value

/-!
# Bare values

Numbers, truth values and dates, each written as one word. Digits of a number may be set apart by
single underscores; a decimal number has no leading zero.
-/
namespace Fanout.Toml

/-- The value of a digit of any base up to sixteen. -/
def digitValue? (c : Char) : Option Nat :=
  let n := c.toNat
  if 48 ≤ n ∧ n ≤ 57 then some (n - 48)
  else if 97 ≤ n ∧ n ≤ 102 then some (n - 87)
  else if 65 ≤ n ∧ n ≤ 70 then some (n - 55)
  else none

/-- Digits of a base set apart by single underscores, without the underscores. -/
def plainDigits (base : Nat) : List Char → Option (List Nat)
  | [] => none
  | [c] => (digitValue? c).bind fun d => if d < base then some [d] else none
  | c :: '_' :: cs => do
    let d ← digitValue? c
    let ds ← plainDigits base cs
    if d < base then some (d :: ds) else none
  | c :: cs => do
    let d ← digitValue? c
    let ds ← plainDigits base cs
    if d < base then some (d :: ds) else none

def ofDigits (base : Nat) (ds : List Nat) : Nat :=
  ds.foldl (fun n d => n * base + d) 0

/-- The digits of a whole decimal number, which has no leading zero. -/
def wholeDigits (cs : List Char) : Option (List Nat) :=
  match plainDigits 10 cs with
  | some (0 :: _ :: _) => none
  | ds => ds

/-- The double nearest to `digits · 10 ^ exponent`; nothing beyond all doubles. -/
def nearest (digits : List Nat) (exponent : Int) : Option Float :=
  let n := ofDigits 10 digits
  let size : Int := digits.length + exponent
  if n = 0 ∨ size < -400 then some 0
  else if 400 < size ∧ (digits.dropWhile (· == 0)).length + exponent > 400 then none
  else
    let x := Float.ofScientific n (exponent < 0) exponent.natAbs
    if x.isInf then none else some x

/-- A sign in front, and the rest. -/
def splitSign : List Char → Option Bool × List Char
  | '-' :: cs => (some true, cs)
  | '+' :: cs => (some false, cs)
  | cs => (none, cs)

/-- Cuts at the first character that passes a test, which is dropped. -/
def cutAt (test : Char → Bool) (cs : List Char) : List Char × Option (List Char) :=
  match cs.dropWhile (!test ·) with
  | [] => (cs, none)
  | _ :: rest => (cs.takeWhile (!test ·), some rest)

/-- A number with a point or an exponent, without its sign. -/
def float? (negative : Bool) (cs : List Char) : Option Value := do
  let (mantissa, power) := cutAt (fun c => c == 'e' || c == 'E') cs
  let (whole, fraction) := cutAt (· == '.') mantissa
  if power.isNone ∧ fraction.isNone then none
  else
    let ds ← wholeDigits whole
    let fs ← match fraction with
      | none => some []
      | some f => plainDigits 10 f
    let e : Int ← match power with
      | none => some 0
      | some p =>
        let (sign, digits) := splitSign p
        (plainDigits 10 digits).map fun es =>
          let n : Int := ofDigits 10 es
          if sign = some true then -n else n
    match nearest (ds ++ fs) (e - fs.length) with
    | some x => some (.float (if negative then -x else x))
    | none => some .hugeFloat

/-- A number. -/
def number? (cs : List Char) : Option Value :=
  match cs with
  | '0' :: 'x' :: ds => (plainDigits 16 ds).map fun d => .int (ofDigits 16 d)
  | '0' :: 'o' :: ds => (plainDigits 8 ds).map fun d => .int (ofDigits 8 d)
  | '0' :: 'b' :: ds => (plainDigits 2 ds).map fun d => .int (ofDigits 2 d)
  | cs =>
    let (sign, body) := splitSign cs
    let negative := sign == some true
    if body = ['i', 'n', 'f'] then some (.float (if negative then -1 / 0 else 1 / 0))
    else if body = ['n', 'a', 'n'] then some (.float (0 / 0))
    else match wholeDigits body with
      | some ds =>
        let n : Int := ofDigits 10 ds
        some (.int (if negative then -n else n))
      | none => float? negative body

/-- Two digits as a number. -/
def twoDigits (a b : Char) : Option Nat :=
  if a.isDigit ∧ b.isDigit then some ((a.toNat - 48) * 10 + (b.toNat - 48)) else none

/-- The number of days of a month. -/
def daysIn (year month : Nat) : Nat :=
  if month = 2 then
    if year % 4 = 0 ∧ (year % 100 ≠ 0 ∨ year % 400 = 0) then 29 else 28
  else if month ∈ [4, 6, 9, 11] then 30 else 31

/-- A date, and what follows it. -/
def dropDate : List Char → Option (List Char)
  | a :: b :: c :: d :: '-' :: e :: f :: '-' :: g :: h :: rest => do
    let century ← twoDigits a b
    let years ← twoDigits c d
    let month ← twoDigits e f
    let day ← twoDigits g h
    if 1 ≤ month ∧ month ≤ 12 ∧ 1 ≤ day ∧ day ≤ daysIn (century * 100 + years) month then some rest
    else none
  | _ => none

/-- A fraction of a second, if there is one. -/
def dropFraction : List Char → Option (List Char)
  | '.' :: cs =>
    let digits := cs.takeWhile Char.isDigit
    if digits.isEmpty then none else some (cs.drop digits.length)
  | cs => some cs

/-- A time of day, whose seconds may be left out, and what follows it. -/
def dropTime : List Char → Option (List Char)
  | a :: b :: ':' :: c :: d :: rest => do
    let hour ← twoDigits a b
    let minute ← twoDigits c d
    if 23 < hour ∨ 59 < minute then none
    else match rest with
      | ':' :: e :: f :: rest => do
        let second ← twoDigits e f
        if 60 < second then none else dropFraction rest
      | rest => some rest
  | _ => none

/-- The end of a date with a time: an offset from universal time, or nothing. -/
def isOffset : List Char → Bool
  | [] => true
  | ['Z'] | ['z'] => true
  | s :: [a, b, ':', c, d] =>
    (s == '+' || s == '-') &&
      match twoDigits a b, twoDigits c d with
      | some hour, some minute => hour ≤ 23 && minute ≤ 59
      | _, _ => false
  | _ => false

/-- Whether a word is a date, a time, or both. -/
def isDate (cs : List Char) : Bool :=
  match dropDate cs with
  | some [] => true
  | some (c :: rest) =>
    (c == 'T' || c == 't' || c == ' ') && ((dropTime rest).map isOffset).getD false
  | none => dropTime cs == some []

/-- The value of a word. -/
def scalar? (cs : List Char) : Option Value :=
  if cs = ['t', 'r', 'u', 'e'] then some (.bool true)
  else if cs = ['f', 'a', 'l', 's', 'e'] then some (.bool false)
  else if isDate cs then some .date
  else number? cs

end Fanout.Toml
