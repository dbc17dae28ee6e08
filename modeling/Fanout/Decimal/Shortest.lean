import Fanout.Decimal.Binary

/-!
# The fewest digits that read back

Every real number nearer to a double than to its neighbours reads back as that double; of the
decimals among them, the one with the fewest digits is chosen, and of two with equally many the
nearer. Where the double lies halfway between the two, a layout says which of them it takes. The
search goes through the grids of one, two, … seventeen digits in exact arithmetic.
-/
namespace Fanout.Decimal

/-- The decimal `digits · 10 ^ exponent`. -/
structure Digits where
  digits : Nat
  exponent : Int

/-- Which of two decimals equally near to a number is taken. -/
inductive Tie where
  /-- The one whose last digit is even. -/
  | toEven
  /-- The one farther from zero. -/
  | awayFromZero
  deriving DecidableEq, Repr

/-- Whether a tie between a point of a grid and the next one goes to the next one. -/
def Tie.goesUp (tie : Tie) (below : Nat) : Bool :=
  match tie with
  | .toEven => below % 2 != 0
  | .awayFromZero => true

/-- The same decimal without zeros at the end, of which at most `fuel` are taken. -/
def Digits.strip : Nat → Digits → Digits
  | 0, d => d
  | fuel + 1, d =>
    if d.digits ≠ 0 ∧ d.digits % 10 = 0 then Digits.strip fuel ⟨d.digits / 10, d.exponent + 1⟩
    else d

/-- The real numbers that round to a double, as bounds in quarters of its unit in the last place. -/
structure Interval where
  low : Nat
  mid : Nat
  high : Nat
  closed : Bool
  exponent : Int

def Binary.interval (b : Binary) : Interval :=
  let m := b.mantissa
  let low := if m = Binary.hiddenBit ∧ b.exponent ≠ -1074 then 4 * m - 1 else 4 * m - 2
  ⟨low, 4 * m, 4 * m + 2, m % 2 == 0, b.exponent - 2⟩

/-- Of the points next to the number on the grid of multiples of `10 ^ p`, the nearer one that lies
in its interval. -/
def Interval.nearest (i : Interval) (tie : Tie) (p : Int) : Option Nat :=
  let (twoNum, twoDen) := twoPow i.exponent
  let (tenNum, tenDen) := tenPow p
  let unit := tenNum * twoDen
  let scale := twoNum * tenDen
  let low := i.low * scale
  let mid := i.mid * scale
  let high := i.high * scale
  let inside := fun c =>
    let x := c * unit
    if i.closed then low ≤ x && x ≤ high else low < x && x < high
  let below := mid / unit
  let above := below + 1
  match inside below, inside above with
  | true, true =>
    let down := mid - below * unit
    let up := above * unit - mid
    some (if up < down || (up == down && tie.goesUp below) then above else below)
  | true, false => some below
  | false, true => some above
  | false, false => none

/-- The number of digits before the point, which is zero or negative for a small number. -/
def Binary.magnitude (b : Binary) : Int :=
  let (num, den) := twoPow b.exponent
  let whole := b.mantissa * num / den
  if whole ≠ 0 then ((Nat.toDigits 10 whole).length : Int)
  else
    let places := (List.range 400).find? fun j => den ≤ b.mantissa * num * Nat.pow 10 j
    1 - (places.getD 0 : Int)

/-- The fewest digits that read back as a number. -/
def Binary.shortest (tie : Tie) (b : Binary) : Digits :=
  if b.mantissa = 0 then ⟨0, 0⟩
  else
    let k := b.magnitude
    let i := b.interval
    let hits := (List.range 17).filterMap fun (n : Nat) =>
      let p : Int := k - n - 1
      (i.nearest tie p).map fun d => Digits.strip 17 ⟨d, p⟩
    hits.headD ⟨i.mid, 0⟩

end Fanout.Decimal
