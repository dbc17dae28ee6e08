import Fanout.Json.Reader

/-!
# Texts and whole numbers are read back

Between quotes every character is written so that it is read as itself, whatever follows. A whole
number within 64 bits is written in its digits, which are read to their end if what follows does not
go on with a number.
-/
namespace Fanout.Json

/-! ## Texts -/

theorem hexNumber_hexDigit {n : Nat} (h : n < 0x20) :
    hexNumber '0' '0' (hexDigit (n / 16)) (hexDigit (n % 16)) = some n := by
  have hall : ∀ n < 0x20, hexNumber '0' '0' (hexDigit (n / 16)) (hexDigit (n % 16)) = some n := by
    decide
  exact hall n h

/-- A number below the surrogates is a character of its own. -/
theorem joinPieces_unit {n : Nat} (h : n < 0xD800) (ps : List Piece) :
    joinPieces (.unit n :: ps) = (joinPieces ps).map (Char.ofNat n :: ·) := by
  cases ps with
  | nil => simp [joinPieces, h]
  | cons p ps => cases p <;> simp [joinPieces, h]

/-- A character is written as one piece, which stands for it. -/
theorem exists_piece (c : Char) : ∃ p,
    (∀ cs, readPieces (escapeChar c ++ cs) = (readPieces cs).map fun x => (p :: x.1, x.2)) ∧
    ∀ ps, joinPieces (p :: ps) = (joinPieces ps).map (c :: ·) := by
  unfold escapeChar
  split
  case h_8 hquote hback _ _ _ _ _ =>
    split
    · rename_i hlt
      refine ⟨.unit c.toNat, fun cs => ?_, fun ps => ?_⟩
      · simp [readPieces, hexNumber_hexDigit hlt]
      · rw [joinPieces_unit (by omega), Char.ofNat_toNat]
    · rename_i hlt
      refine ⟨.char c, fun cs => ?_, fun ps => rfl⟩
      rw [List.singleton_append, readPieces.eq_5 c cs hquote (fun _ _ _ _ _ h => absurd h hback)
        (fun _ _ h => absurd h hback), if_neg hlt]
  all_goals exact ⟨.char _, fun cs => rfl, fun ps => rfl⟩

theorem exists_readPieces (chars rest : List Char) : ∃ ps,
    readPieces (chars.flatMap escapeChar ++ '"' :: rest) = some (ps, rest) ∧
      joinPieces ps = some chars := by
  induction chars with
  | nil => exact ⟨[], rfl, rfl⟩
  | cons c chars ih =>
    obtain ⟨ps, hread, hjoin⟩ := ih
    obtain ⟨p, hp, hc⟩ := exists_piece c
    refine ⟨p :: ps, ?_, ?_⟩
    · rw [List.flatMap_cons, List.append_assoc, hp, hread]
      rfl
    · rw [hc, hjoin]
      rfl

theorem readQuoted_quote (s : String) (rest : List Char) :
    readQuoted (s.toList.flatMap escapeChar ++ '"' :: rest) = (.str s, rest) := by
  obtain ⟨ps, hread, hjoin⟩ := exists_readPieces s.toList rest
  simp [readQuoted, hread, hjoin]

/-! ## Whole numbers -/

/-- What may follow a whole number. -/
def EndsNumber (rest : List Char) : Prop :=
  ∀ c, rest.head? = some c → c.isDigit = false ∧ c ≠ '.' ∧ c ≠ 'e' ∧ c ≠ 'E'

theorem takeDigits_append {digits rest : List Char} (hdigits : ∀ c ∈ digits, c.isDigit = true)
    (hrest : EndsNumber rest) : takeDigits (digits ++ rest) = (digits, rest) := by
  have hstop : rest.takeWhile Char.isDigit = [] ∧ rest.dropWhile Char.isDigit = rest := by
    cases rest with
    | nil => exact ⟨rfl, rfl⟩
    | cons c cs => simp [(hrest c rfl).1]
  rw [takeDigits, List.takeWhile_append_of_pos hdigits, List.dropWhile_append_of_pos hdigits,
    hstop.1, hstop.2, List.append_nil]

theorem isDigit_of_mem_toDigits {n : Nat} {c : Char} (h : c ∈ Nat.toDigits 10 n) :
    c.isDigit = true :=
  Nat.isDigit_of_mem_toDigits (by decide) (by decide) h

/-- Only zero is written with a zero in front. -/
theorem head_toDigits_ne_zero {n : Nat} (h : 0 < n) : (Nat.toDigits 10 n).head? ≠ some '0' := by
  induction n using Nat.strongRecOn with
  | ind n ih =>
    rcases Nat.lt_or_ge n 10 with hlt | hge
    · have hall : ∀ n < 10, 0 < n → (Nat.toDigits 10 n).head? ≠ some '0' := by decide
      exact hall n hlt h
    · have hfront := ih (n / 10) (by omega) (by omega)
      rw [Nat.toDigits_of_base_le (by decide) hge]
      cases hdigits : Nat.toDigits 10 (n / 10) with
      | nil => exact absurd hdigits Nat.toDigits_ne_nil
      | cons d ds => simpa [hdigits] using hfront

theorem readNumeral_digits (negative : Bool) {digits rest : List Char}
    (hdigits : ∀ c ∈ digits, c.isDigit = true) (hne : digits ≠ [])
    (hzero : digits.length ≠ 1 → digits.head? ≠ some '0') (hrest : EndsNumber rest) :
    readNumeral ((if negative then ['-'] else []) ++ digits ++ rest) =
      some (⟨negative, digits, none, none⟩, rest) := by
  have htake := takeDigits_append hdigits hrest
  obtain ⟨d, ds, rfl⟩ := List.exists_cons_of_ne_nil hne
  have hd : d ≠ '-' := by
    rintro rfl
    cases hdigits '-' List.mem_cons_self
  have hend : ∀ c cs, rest = c :: cs → c ≠ '.' ∧ ¬ (c = 'e' ∨ c = 'E') := by
    rintro c cs rfl
    obtain ⟨-, hpoint, he, hE⟩ := hrest c rfl
    exact ⟨hpoint, by simp [he, hE]⟩
  cases negative with
  | true =>
    simp only [readNumeral, if_true, List.cons_append, List.nil_append]
    rw [List.cons_append] at htake
    rw [htake]
    cases rest with
    | nil => simp_all
    | cons c cs => simp_all
  | false =>
    simp only [readNumeral, Bool.false_eq_true, if_false, List.cons_append, List.nil_append]
    rw [List.cons_append] at htake
    cases rest with
    | nil => simp_all
    | cons c cs => simp_all

theorem le_ofDigitChars (digits : List Char) (sig : Nat) : sig ≤ Nat.ofDigitChars 10 digits sig := by
  induction digits generalizing sig with
  | nil => exact Nat.le_refl sig
  | cons d ds ih =>
    rw [Nat.ofDigitChars_cons]
    exact Nat.le_trans (by omega) (ih _)

/-- The leading digits are all the digits of a number that fits. -/
theorem leading_eq {digits : List Char} {sig : Nat}
    (h : Nat.ofDigitChars 10 digits sig < UInt64.size) :
    leading sig digits = (Nat.ofDigitChars 10 digits sig, 0) := by
  induction digits generalizing sig with
  | nil => rfl
  | cons d ds ih =>
    have hstep : sig * 10 + digitValue d = 10 * sig + (d.toNat - '0'.toNat) := by
      rw [Nat.mul_comm]
      rfl
    rw [Nat.ofDigitChars_cons, ← hstep] at h
    have hlt : sig * 10 + digitValue d < UInt64.size := Nat.lt_of_le_of_lt (le_ofDigitChars ds _) h
    rw [leading, if_pos hlt, ih h, Nat.ofDigitChars_cons, ← hstep]

theorem leading_toDigits {n : Nat} (h : n < UInt64.size) :
    leading 0 (Nat.toDigits 10 n) = (n, 0) := by
  rw [leading_eq (by rwa [Nat.ofDigitChars_ten_toDigits]), Nat.ofDigitChars_ten_toDigits]

/-- The whole numbers that are read exactly, from `-2 ^ 63` on and below `2 ^ 64`. -/
def IntFits (n : Int) : Prop :=
  -UInt64.size ≤ 2 * n ∧ n < UInt64.size

theorem exists_readNumeral {n : Int} (hn : IntFits n) {rest : List Char} (hrest : EndsNumber rest) :
    ∃ numeral, readNumeral (intText n ++ rest) = some (numeral, rest) ∧
      numeral.value? = some (Number.ofInt n) := by
  obtain ⟨hlow, hhigh⟩ := hn
  have hdigits : ∀ m, ∀ c ∈ Nat.toDigits 10 m, c.isDigit = true := fun m c => isDigit_of_mem_toDigits
  cases n with
  | ofNat n =>
    have hfits : n < UInt64.size := Int.ofNat_lt.mp hhigh
    have hzero : (Nat.toDigits 10 n).length ≠ 1 → (Nat.toDigits 10 n).head? ≠ some '0' := by
      intro hlen
      refine head_toDigits_ne_zero (Nat.pos_of_ne_zero ?_)
      rintro rfl
      exact hlen rfl
    refine ⟨⟨false, Nat.toDigits 10 n, none, none⟩,
      readNumeral_digits false (hdigits n) Nat.toDigits_ne_nil hzero hrest, ?_⟩
    simp [Numeral.value?, leading_toDigits hfits, Number.ofInt]
  | negSucc n =>
    have hfits : 2 * (n + 1) ≤ UInt64.size := by
      rw [Int.negSucc_eq] at hlow
      omega
    have hsize : n + 1 < UInt64.size := by omega
    refine ⟨⟨true, Nat.toDigits 10 (n + 1), none, none⟩,
      readNumeral_digits true (hdigits (n + 1)) Nat.toDigits_ne_nil
        (fun _ => head_toDigits_ne_zero (Nat.succ_pos n)) hrest, ?_⟩
    simp [Numeral.value?, leading_toDigits hsize, Number.ofInt, hfits, Int.negSucc_eq]

end Fanout.Json
