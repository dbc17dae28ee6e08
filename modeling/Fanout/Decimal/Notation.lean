import Fanout.Decimal.Shortest

/-!
# Layouts of decimals

Three ways to write a number: in full with a point, with an exponent where that is shorter, and
with one place after the point.
-/
namespace Fanout.Decimal

/-- Digits in full, with at least one digit on either side of the point. -/
def Digits.positional (d : Digits) : String :=
  let text := Nat.toDigits 10 d.digits
  if 0 ≤ d.exponent then
    String.ofList (text ++ List.replicate d.exponent.toNat '0') ++ ".0"
  else
    let places := (-d.exponent).toNat
    let padded := List.replicate (places + 1 - text.length) '0' ++ text
    let cut := padded.length - places
    String.ofList (padded.take cut) ++ "." ++ String.ofList (padded.drop cut)

/-- Digits in full between `10 ^ -5` and `10 ^ 16`, otherwise one digit before the point and an
exponent with its sign. -/
def Digits.compact (d : Digits) : String :=
  let text := Nat.toDigits 10 d.digits
  let point : Int := text.length + d.exponent
  if (0 ≤ d.exponent && point ≤ 16) || (-5 < point && point ≤ 16) then d.positional
  else
    let exponent := (if 0 < point then "e+" else "e") ++ toString (point - 1)
    match text with
    | [c] => String.singleton c ++ exponent
    | c :: cs => String.singleton c ++ "." ++ String.ofList cs ++ exponent
    | [] => exponent

/-- How a number is written, given the layout of its digits and where ties between them go. -/
def writeWith (layout : Digits → String) (tie : Tie) (x : Float) : String :=
  match Reading.ofFloat x with
  | .finite b => (if b.negative then "-" else "") ++ layout (b.shortest tie)
  | .infinite negative => if negative then "-inf" else "inf"
  | .notANumber => "NaN"

/-- A number in full, always with a point; ties between its digits go away from zero. -/
def positional : Float → String :=
  writeWith Digits.positional .awayFromZero

/-- A number in the shorter of the two layouts; ties between its digits go to the even ones. -/
def compact : Float → String :=
  writeWith Digits.compact .toEven

/-- A number with one place after the point, rounded from its exact value. -/
def onePlace (x : Float) : String :=
  match Reading.ofFloat x with
  | .finite b =>
    let tenths := b.scaled 1
    (if b.negative then "-" else "") ++ s!"{tenths / 10}.{tenths % 10}"
  | .infinite negative => if negative then "-inf" else "inf"
  | .notANumber => "NaN"

end Fanout.Decimal
