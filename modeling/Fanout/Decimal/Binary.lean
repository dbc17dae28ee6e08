/-!
# Binary fractions

A finite floating-point number is a sign, a natural number and a power of two. Everything that is
written or rounded exactly starts from this form and goes on in natural numbers.
-/
namespace Fanout.Decimal

/-- The number `mantissa · 2 ^ exponent`, negated if `negative`. -/
structure Binary where
  negative : Bool
  mantissa : Nat
  exponent : Int

/-- What a floating-point number stands for. -/
inductive Reading where
  | finite (b : Binary)
  | infinite (negative : Bool)
  | notANumber

/-- The leading bit of a double's mantissa, which is not written. -/
def Binary.hiddenBit : Nat := Nat.pow 2 52

/-- Takes the bits of a double apart. -/
def Reading.ofFloat (x : Float) : Reading :=
  let bits : Nat := x.toBits.toNat
  let negative := bits / Nat.pow 2 63 == 1
  let field : Nat := bits / Binary.hiddenBit % Nat.pow 2 11
  let fraction : Nat := bits % Binary.hiddenBit
  if field = 2047 then
    if fraction = 0 then .infinite negative else .notANumber
  else if field = 0 then .finite ⟨negative, fraction, -1074⟩
  else .finite ⟨negative, Binary.hiddenBit + fraction, (field : Int) - 1075⟩

/-- A power of two as a quotient of natural numbers. -/
def twoPow (e : Int) : Nat × Nat :=
  if 0 ≤ e then (Nat.pow 2 e.toNat, 1) else (1, Nat.pow 2 (-e).toNat)

/-- A power of ten as a quotient of natural numbers. -/
def tenPow (e : Int) : Nat × Nat :=
  if 0 ≤ e then (Nat.pow 10 e.toNat, 1) else (1, Nat.pow 10 (-e).toNat)

/-- The natural number nearest to a quotient; a half goes to the even neighbour. -/
def roundDiv (num den : Nat) : Nat :=
  let q := num / den
  let r := num % den
  if 2 * r < den then q
  else if den < 2 * r then q + 1
  else if q % 2 = 0 then q else q + 1

/-- The size of a number in units of `10 ^ -places`, rounded to the nearest unit. -/
def Binary.scaled (b : Binary) (places : Nat) : Nat :=
  let (num, den) := twoPow b.exponent
  roundDiv (b.mantissa * num * Nat.pow 10 places) den

end Fanout.Decimal
