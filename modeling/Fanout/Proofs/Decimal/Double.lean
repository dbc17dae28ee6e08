import Fanout.Decimal.Binary

/-!
# Doubles without a sign

Products and quotients of doubles that are not negative are not negative either, whatever overflows or
is no number. What a double reads as is the number that its parts stand for.
-/
namespace Fanout.Decimal

open Float.Model Float.Model.UnpackedFloat

/-! ## Parts of a double -/

section Parts

variable (b : BitVec 64)

theorem toNat_unpackMantissa :
    (@unpackMantissa Format.binary64 b).toNat = b.toNat % Binary.hiddenBit := by
  simp [unpackMantissa, Binary.hiddenBit]

theorem toNat_unpackExponent : (@unpackExponent Format.binary64 b).toNat =
    b.toNat / Binary.hiddenBit % Nat.pow 2 11 := by
  simp [unpackExponent, Binary.hiddenBit, Nat.shiftRight_eq_div_pow]

theorem toNat_unpackSign : (@unpackSign Format.binary64 b).toNat = b.toNat / Nat.pow 2 63 := by
  have := b.isLt
  show (b.extractLsb 63 63).toNat = b.toNat / Nat.pow 2 63
  rw [BitVec.extractLsb_toNat, Nat.shiftRight_eq_div_pow]
  simp
  omega

end Parts

def isNegative : Sign → Bool
  | .negative => true
  | .positive => false

theorem isNegative_ofBitVec (s : BitVec 1) : isNegative (Sign.ofBitVec s) = (s.toNat == 1) := by
  revert s
  decide

/-- What a double reads as, told by its parts. -/
def readingOf : UnpackedFloat → Reading
  | .notANumber => .notANumber
  | .infinity s => .infinite (isNegative s)
  | .zero s => .finite ⟨isNegative s, 0, -1074⟩
  | .finite s m e _ => .finite ⟨isNegative s, m, e⟩

theorem toNat_hidden_append (m : BitVec 52) : (1#1 ++ m).toNat = Binary.hiddenBit + m.toNat := by
  rw [BitVec.toNat_append, ← Nat.shiftLeft_add_eq_or_of_lt m.isLt]
  rfl

theorem ofFloat_eq_readingOf (x : Float) : Reading.ofFloat x = readingOf x.toModel.unpack := by
  have hbits : x.toBits.toNat = x.toModel.toBits.toBitVec.toNat := rfl
  show _ = readingOf (UnpackedFloat.unpack .binary64 x.toModel.toBits.toBitVec)
  simp only [Reading.ofFloat, hbits]
  generalize x.toModel.toBits.toBitVec = b
  delta UnpackedFloat.unpack
  dsimp only
  have hsign : (b.toNat / Nat.pow 2 63 == 1) =
      isNegative (Sign.ofBitVec (@unpackSign Format.binary64 b)) := by
    rw [isNegative_ofBitVec, toNat_unpackSign]
  rw [hsign, ← toNat_unpackExponent, ← toNat_unpackMantissa]
  have hmax : (@unpackExponent Format.binary64 b).toNat = 2047 ↔
      @unpackExponent Format.binary64 b = -1#11 := @BitVec.toNat_inj 11 _ (-1#11)
  have hmin : (@unpackExponent Format.binary64 b).toNat = 0 ↔
      @unpackExponent Format.binary64 b = 0#11 := @BitVec.toNat_inj 11 _ 0#11
  have hnil : (@unpackMantissa Format.binary64 b).toNat = 0 ↔
      @unpackMantissa Format.binary64 b = 0#52 := @BitVec.toNat_inj 52 _ 0#52
  by_cases he : @unpackExponent Format.binary64 b = -1#11
  · rw [if_pos he, if_pos (hmax.mpr he)]
    by_cases hm : @unpackMantissa Format.binary64 b = 0#52
    · rw [if_pos hm, if_pos (hnil.mpr hm)]
      rfl
    · rw [if_neg hm, if_neg (mt hnil.mp hm)]
      rfl
  · rw [if_neg he, if_neg (mt hmax.mp he)]
    by_cases hsub : @unpackExponent Format.binary64 b = 0#11
    · rw [if_pos hsub, if_pos (hmin.mpr hsub)]
      by_cases hm : @unpackMantissa Format.binary64 b = 0#52
      · rw [dif_pos hm, hm]
        rfl
      · rw [dif_neg hm, hsub]
        rfl
    · rw [if_neg hsub, if_neg (mt hmin.mp hsub)]
      show _ = Reading.finite ⟨_, (1#1 ++ @unpackMantissa Format.binary64 b).toNat, _⟩
      rw [toNat_hidden_append]
      rfl

/-! ## Sign -/

/-- Without a minus sign. What is no number has no sign. -/
def Unsigned : UnpackedFloat → Prop
  | .notANumber => True
  | .infinity s | .zero s | .finite s _ _ _ => isNegative s = false

theorem isNegative_mul {s t : Sign} (hs : isNegative s = false) (ht : isNegative t = false) :
    isNegative (s * t) = false := by
  cases s <;> cases t <;> simp [isNegative] at hs ht
  rfl

theorem isNegative_div {s t : Sign} (hs : isNegative s = false) (ht : isNegative t = false) :
    isNegative (s / t) = false := by
  cases s <;> cases t <;> simp [isNegative] at hs ht
  rfl

variable {u v : UnpackedFloat}

theorem Unsigned.ite {p : Prop} [Decidable p] (hu : Unsigned u) (hv : Unsigned v) :
    Unsigned (if p then u else v) :=
  iteInduction (fun _ => hu) fun _ => hv

theorem Unsigned.dite {p : Prop} [Decidable p] {f : ¬ p → UnpackedFloat} (hu : Unsigned u)
    (hf : ∀ h, Unsigned (f h)) : Unsigned (if h : p then u else f h) := by
  by_cases h : p
  · rw [dif_pos h]
    exact hu
  · rw [dif_neg h]
    exact hf h

/-- Rounding keeps the sign, also where it comes to zero. -/
theorem unsigned_round {s : Sign} (hs : isNegative s = false) (m : Nat) (e : Int) (a : Accuracy) :
    Unsigned (roundWithAccuracy .binary64 s m e a) :=
  Unsigned.dite hs fun _ => hs

theorem Unsigned.mul (hu : Unsigned u) (hv : Unsigned v) :
    Unsigned (UnpackedFloat.mul .binary64 u v) := by
  cases u <;> cases v
  case finite.finite => exact unsigned_round (isNegative_mul hu hv) _ _ _
  all_goals first | exact trivial | exact isNegative_mul hu hv

theorem Unsigned.div (hu : Unsigned u) (hv : Unsigned v) :
    Unsigned (UnpackedFloat.div .binary64 u v) := by
  cases u <;> cases v
  case finite.finite => exact unsigned_round (isNegative_div hu hv) _ _ _
  all_goals first | exact trivial | exact isNegative_div hu hv

theorem unsigned_unpack {b : BitVec 64}
    (h : isNegative (Sign.ofBitVec (@unpackSign .binary64 b)) = false) :
    Unsigned (UnpackedFloat.unpack .binary64 b) :=
  .ite (.ite h trivial) (.ite (.dite h fun _ => h) h)

/-- A sign bit of zero adds nothing to what the bits of exponent and mantissa stand for. -/
theorem toNat_zero_append (e : BitVec 11) (m : BitVec 52) :
    (0#1 ++ e ++ m).toNat = (e ++ m).toNat := by
  simp only [BitVec.toNat_append, BitVec.toNat_zero, Nat.zero_shiftLeft, Nat.zero_or]

theorem unsigned_packComponents {s : Sign} (hs : isNegative s = false) (e : BitVec 11)
    (m : BitVec 52) : Unsigned (UnpackedFloat.unpack .binary64 (packComponents .binary64 s e m)) := by
  apply unsigned_unpack
  rw [isNegative_ofBitVec, toNat_unpackSign]
  cases s with
  | negative => simp [isNegative] at hs
  | positive =>
    have hbits : (packComponents .binary64 .positive e m).toNat = (e ++ m).toNat :=
      toNat_zero_append e m
    rw [hbits, Nat.div_eq_of_lt (e ++ m).isLt]
    rfl

/-- Writing a number to bits and reading it again gives it no sign. -/
theorem Unsigned.unpack_pack (hu : Unsigned u) : Unsigned (Float.Model.pack u).unpack := by
  show Unsigned (UnpackedFloat.unpack .binary64 (UnpackedFloat.pack .binary64 u))
  cases u with
  | notANumber => exact unsigned_packComponents rfl _ _
  | infinity s => exact unsigned_packComponents hu _ _
  | zero s => exact unsigned_packComponents hu _ _
  | finite s m e hm =>
    delta UnpackedFloat.pack
    dsimp only
    split
    · exact unsigned_packComponents hu _ _
    · split
      · exact unsigned_packComponents hu _ _
      · exact unsigned_packComponents hu _ _

/-- A double without a minus sign. -/
def Nonneg (x : Float) : Prop := Unsigned x.toModel.unpack

theorem Nonneg.mul {x y : Float} (hx : Nonneg x) (hy : Nonneg y) : Nonneg (x * y) :=
  (Unsigned.mul hx hy).unpack_pack

theorem Nonneg.div {x y : Float} (hx : Nonneg x) (hy : Nonneg y) : Nonneg (x / y) :=
  (Unsigned.div hx hy).unpack_pack

/-! ## Size -/

theorem Reading.mantissa_lt {x : Float} {b : Binary} (h : Reading.ofFloat x = .finite b) :
    b.mantissa < 2 * Binary.hiddenBit := by
  have hfraction : x.toBits.toNat % Binary.hiddenBit < Binary.hiddenBit :=
    Nat.mod_lt _ (by decide)
  simp only [Reading.ofFloat] at h
  split at h
  · split at h <;> cases h
  · split at h
    · cases h
      simp only
      omega
    · cases h
      simp only
      omega

/-- What is not above a finite bound is finite, and its exponent is at most that of the bound. -/
theorem exists_reading_of_not_lt {x top : Float} {m : Nat} {e : Int} {hm : 0 < m}
    (htop : top.toModel.unpack = .finite .positive m e hm) (hx : Nonneg x) (hnan : x.isNaN = false)
    (hle : ¬ top < x) : ∃ b, Reading.ofFloat x = .finite b ∧ b.negative = false ∧
      b.exponent ≤ max (-1074) e := by
  replace hle : top.toModel.unpack.compare x.toModel.unpack ≠ some .lt := by
    intro h
    have hlt : top.toModel < x.toModel := by
      show top.toModel.unpack.lt x.toModel.unpack
      simp [UnpackedFloat.lt, h]
    exact hle (decide_eq_true hlt)
  replace hnan : x.toModel.unpack.isNaN = false := hnan
  rw [ofFloat_eq_readingOf]
  unfold Nonneg at hx
  rw [htop] at hle
  cases hu : x.toModel.unpack with
  | notANumber =>
    rw [hu] at hnan
    cases hnan
  | infinity s =>
    rw [hu] at hx hle
    cases s with
    | negative => cases hx
    | positive => exact absurd rfl hle
  | zero s =>
    rw [hu] at hx
    exact ⟨_, rfl, hx, Int.le_max_left _ _⟩
  | finite s m' e' hm' =>
    rw [hu] at hx hle
    refine ⟨_, rfl, hx, ?_⟩
    cases s with
    | negative => cases hx
    | positive =>
      have hge : ¬ e < e' := by
        intro hlt
        have hcompare : compare e e' = .lt := Int.compare_eq_lt.mpr hlt
        apply hle
        show some ((compare e e').then (compare m m')) = some .lt
        rw [hcompare]
        rfl
      show e' ≤ max (-1074) e
      omega

end Fanout.Decimal
