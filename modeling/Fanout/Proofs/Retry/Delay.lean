import Fanout.Proofs.Decimal.Double
import Fanout.Retry.Delay

/-!
# Delays that can be waited

A delay grows as a double and has to become a span of time in the end. It becomes one after every
attempt, however far the growth runs out of the doubles, if the plan has no negative number and its
longest delay is within what spans can hold.
-/
namespace Fanout

open Decimal

/-! ## Spans -/

theorem roundDiv_le (n d : Nat) : roundDiv n d ≤ n / d + 1 := by
  simp only [roundDiv]
  split
  · omega
  · split
    · omega
    · split <;> omega

theorem twoPow_le {e : Int} {k : Nat} (he : e ≤ k) : (twoPow e).1 ≤ Nat.pow 2 k := by
  rw [twoPow]
  split
  · exact Nat.pow_le_pow_right (by decide) (by omega)
  · exact Nat.one_le_two_pow

/-- A double below `2 ^ 63` has less than `2 ^ 64` whole seconds, also where it is rounded up. -/
theorem scaled_lt {b : Binary} (hm : b.mantissa < 2 * Binary.hiddenBit) (he : b.exponent ≤ 10) :
    b.scaled 9 / 1000000000 < UInt64.size := by
  have hnum : b.mantissa * (twoPow b.exponent).1 ≤ 2 * Binary.hiddenBit * Nat.pow 2 10 :=
    Nat.mul_le_mul (Nat.le_of_lt hm) (twoPow_le he)
  have hscaled : b.scaled 9 ≤ b.mantissa * (twoPow b.exponent).1 * Nat.pow 10 9 + 1 :=
    calc b.scaled 9
      _ ≤ b.mantissa * (twoPow b.exponent).1 * Nat.pow 10 9 / (twoPow b.exponent).2 + 1 :=
        roundDiv_le _ _
      _ ≤ b.mantissa * (twoPow b.exponent).1 * Nat.pow 10 9 + 1 :=
        Nat.succ_le_succ (Nat.div_le_self _ _)
  have hpow : Nat.pow 10 9 = 1000000000 := rfl
  have hbits : 2 * Binary.hiddenBit * Nat.pow 2 10 < UInt64.size := by decide
  rw [hpow] at hscaled
  omega

theorem Span.exists_ofSeconds {x : Float} {b : Binary} (h : Reading.ofFloat x = .finite b)
    (hsign : b.negative = false) (he : b.exponent ≤ 10) : ∃ s, Span.ofSeconds x = .ok s := by
  have hsecs : (Span.ofNanos (b.scaled 9)).secs < UInt64.size :=
    scaled_lt (Reading.mantissa_lt h) he
  simp only [Span.ofSeconds, h, hsign, Bool.false_and, Bool.false_eq_true, if_false, hsecs, if_true]
  exact ⟨_, rfl⟩

/-! ## Growth -/

theorem nonneg_of_unpack {x : Float} {m : Nat} {e : Int} {hm : 0 < m}
    (h : x.toModel.unpack = .finite .positive m e hm) : Nonneg x := by
  rw [Nonneg, h]
  rfl

theorem nonneg_one : Nonneg 1 := rfl

theorem nonneg_powFrom (fuel : Nat) {r a : Float} (hr : Nonneg r) (ha : Nonneg a) (n : Nat) :
    Nonneg (powFrom fuel r a n) := by
  induction fuel generalizing r a n with
  | zero => exact hr
  | succ fuel ih =>
    have hr' : Nonneg (if n % 2 = 1 then r * a else r) := by
      split
      · exact hr.mul ha
      · exact hr
    simp only [powFrom]
    split
    · exact hr'
    · exact ih hr' (ha.mul ha) _

theorem nonneg_power {a : Float} (ha : Nonneg a) (e : Int32) : Nonneg (power a e) := by
  have h := nonneg_powFrom 32 nonneg_one ha e.toInt.natAbs
  simp only [power]
  split
  · exact nonneg_one.div h
  · exact h

/-- The smaller of a number and a bound reads as a number if the bound does. -/
theorem exists_reading_lesser {x top : Float} {m : Nat} {e : Int} {hm : 0 < m}
    (htop : top.toModel.unpack = .finite .positive m e hm) (hx : Nonneg x) :
    ∃ b, Reading.ofFloat (lesser x top) = .finite b ∧ b.negative = false ∧
      b.exponent ≤ max (-1074) e := by
  have hread : ∃ b, Reading.ofFloat top = .finite b ∧ b.negative = false ∧
      b.exponent ≤ max (-1074) e := by
    rw [ofFloat_eq_readingOf, htop]
    exact ⟨_, rfl, rfl, Int.le_max_right _ _⟩
  have hnum : top.isNaN = false := by
    show top.toModel.unpack.isNaN = false
    rw [htop]
    rfl
  simp only [lesser, hnum, Bool.false_eq_true, if_false]
  split
  · exact hread
  · rename_i hnan
    split
    · exact hread
    · rename_i hle
      exact exists_reading_of_not_lt htop hx (by simpa using hnan) hle

/-! ## Plans -/

namespace RetryPlan

/-- Nothing in a plan is negative, and its longest delay is less than `2 ^ 63` seconds. -/
structure Waitable (plan : RetryPlan) : Prop where
  base : Nonneg plan.baseDelay.toSeconds
  factor : Nonneg plan.factor
  longest : ∃ m e hm, plan.maxDelay.toSeconds.toModel.unpack = .finite .positive m e hm ∧ e ≤ 10

theorem Waitable.exists_delay {plan : RetryPlan} (h : plan.Waitable) (attempt : UInt32) :
    ∃ wait, plan.delay attempt = .ok wait := by
  obtain ⟨m, e, hm, htop, he⟩ := h.longest
  have hgrown := h.base.mul (nonneg_power h.factor attempt.toInt32)
  obtain ⟨b, hread, hsign, hexp⟩ := exists_reading_lesser htop hgrown
  exact Span.exists_ofSeconds hread hsign (by omega)

theorem unpack_baseDelay : default.baseDelay.toSeconds.toModel.unpack =
    .finite .positive 4503599627370496 (-52) (by decide) := rfl

theorem unpack_factor : default.factor.toModel.unpack =
    .finite .positive 4503599627370496 (-51) (by decide) := rfl

theorem unpack_maxDelay : default.maxDelay.toSeconds.toModel.unpack =
    .finite .positive 8444249301319680 (-48) (by decide) := rfl

theorem waitable_withRetries (retries : UInt32) : (withRetries retries).Waitable where
  base := nonneg_of_unpack unpack_baseDelay
  factor := nonneg_of_unpack unpack_factor
  longest := ⟨_, _, _, unpack_maxDelay, by decide⟩

end RetryPlan

end Fanout
