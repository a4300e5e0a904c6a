import Spreadsheet.Number.Basic

/-!
# Normal forms of decimals

A decimal is found again from any way to write it with more zeros (`Decimal.ofScaled_mul_pow`), and
rounding leaves it alone while its digits are few (`Decimal.round_of_lt`). So an integer of 64 bits
that a number equals determines the number (`Number.ofInt_of_toInt64?`).
-/

namespace Spreadsheet

/-! ## Digits -/

theorem digitCount_go_le {fuel n digits : Nat} (some_digit : 0 < digits) (below : n < 10 ^ digits) :
    digitCount.go fuel n ≤ digits := by
  induction fuel generalizing n digits with
  | zero => exact some_digit
  | succ fuel ih =>
    simp only [digitCount.go]
    split
    next => exact some_digit
    next several =>
      obtain ⟨digits, rfl⟩ : ∃ fewer, digits = fewer + 1 := ⟨digits - 1, by omega⟩
      rw [Nat.pow_succ] at below
      have positive : 0 < digits :=
        Nat.pos_of_ne_zero fun none_left => several (by simpa [none_left] using below)
      exact Nat.succ_le_succ (ih positive (by omega))

/-- A number below a power of ten has no more digits than the exponent says. -/
theorem digitCount_le {n digits : Nat} (some_digit : 0 < digits) (below : n < 10 ^ digits) :
    digitCount n ≤ digits :=
  digitCount_go_le some_digit below

/-! ## Scaled coefficients -/

section Scaled

variable {x : Decimal} {n : Int}

/-- Zero is written in one way. -/
theorem Decimal.exp_eq_zero (zero : x.coeff = 0) : x.exp = 0 :=
  (x.normal.resolve_left fun reduced => reduced (by simp [zero])).2

theorem Decimal.stripZeros_mul_pow {coeff : Int} (reduced : coeff % 10 ≠ 0) (exp : Int)
    {fuel zeros : Nat} (enough : zeros ≤ fuel) :
    stripZeros fuel (coeff * 10 ^ zeros) (exp - zeros) = (coeff, exp) := by
  induction fuel generalizing zeros with
  | zero =>
    obtain rfl : zeros = 0 := by omega
    simp [stripZeros]
  | succ fuel ih =>
    cases zeros with
    | zero => simp [stripZeros, reduced]
    | succ zeros =>
      have tenfold : coeff * 10 ^ (zeros + 1) = coeff * 10 ^ zeros * 10 := by
        rw [Int.pow_succ, Int.mul_assoc]
      have place : exp - ((zeros + 1 : Nat) : Int) + 1 = exp - zeros := by omega
      rw [stripZeros, tenfold, if_pos (Int.mul_emod_left _ _), Int.mul_ediv_cancel _ (by decide),
        place]
      exact ih (by omega)

/-- Zeros after the digits of a decimal do not change it when its exponent makes up for them. -/
theorem Decimal.ofScaled_mul_pow (x : Decimal) (zeros : Nat) :
    ofScaled (x.coeff * 10 ^ zeros) (x.exp - zeros) = x := by
  by_cases zero : x.coeff = 0
  · have plain := exp_eq_zero zero
    rw [ofScaled, dif_pos (by simp [zero])]
    exact Decimal.ext zero.symm plain.symm
  · have reduced : x.coeff % 10 ≠ 0 := x.normal.resolve_right fun none => zero none.1
    have scale : (10 : Int) ^ zeros ≠ 0 := Int.pow_ne_zero (by decide)
    have size : 2 ^ zeros ≤ (x.coeff * 10 ^ zeros).natAbs := by
      rw [Int.natAbs_mul, Int.natAbs_pow]
      calc 2 ^ zeros ≤ 10 ^ zeros := Nat.pow_le_pow_left (by decide) _
        _ ≤ x.coeff.natAbs * 10 ^ zeros :=
          Nat.le_mul_of_pos_left _ (Int.natAbs_pos.mpr zero)
    have nonzero : x.coeff * 10 ^ zeros ≠ 0 := Int.mul_ne_zero zero scale
    have enough : zeros ≤ (x.coeff * 10 ^ zeros).natAbs.log2 :=
      (Nat.le_log2 (Int.natAbs_ne_zero.mpr nonzero)).mpr size
    have stripped := stripZeros_mul_pow reduced x.exp (Nat.le_succ_of_le enough)
    rw [ofScaled, dif_neg nonzero]
    exact Decimal.ext (congrArg Prod.fst stripped) (congrArg Prod.snd stripped)

theorem Decimal.ofScaled_coeff (x : Decimal) : ofScaled x.coeff x.exp = x := by
  simpa using ofScaled_mul_pow x 0

/-- Zeros that are taken away raise the exponent. -/
theorem Decimal.le_stripZeros_snd (fuel : Nat) (coeff exp : Int) :
    exp ≤ (stripZeros fuel coeff exp).2 := by
  induction fuel generalizing coeff exp with
  | zero => exact Int.le_refl exp
  | succ fuel ih =>
    rw [stripZeros]
    split
    · exact Int.le_trans (by omega) (ih _ (exp + 1))
    · exact Int.le_refl exp

theorem Decimal.exp_ofInt_nonneg (n : Int) : 0 ≤ (ofInt n).exp := by
  rw [ofInt, ofScaled]
  split
  · exact Int.le_refl 0
  · exact le_stripZeros_snd _ n 0

theorem Decimal.neg_neg : x.neg.neg = x :=
  Decimal.ext (Int.neg_neg x.coeff) rfl

theorem Decimal.round_of_lt (few : x.coeff.natAbs < 10 ^ precision) : x.round = x := by
  have fits : digitCount x.coeff.natAbs - precision = 0 :=
    Nat.sub_eq_zero_of_le (digitCount_le (by decide) few)
  rw [round, roundTo]
  exact if_pos fits

/-- A decimal with a 64-bit integer as its value is the one made from the integer. -/
theorem Number.ofInt_of_toInt64? (value : x.toInt64? = some n) :
    inInt64 n = true ∧ ofInt n = .decimal x := by
  have view : (0 ≤ x.exp ∧ x.exp ≤ 18) ∧ x.coeff * 10 ^ x.exp.toNat = n ∧ inInt64 n = true := by
    rw [Decimal.toInt64?] at value
    split at value
    next places =>
      obtain ⟨same, small⟩ := Option.filter_eq_some_iff.mp value
      exact ⟨places, Option.some.inj same, small⟩
    next => cases value
  obtain ⟨places, rfl, small⟩ := view
  have exact : Decimal.ofInt (x.coeff * 10 ^ x.exp.toNat) = x := by
    have units : x.exp - (x.exp.toNat : Int) = 0 := by omega
    rw [Decimal.ofInt, ← units]
    exact x.ofScaled_mul_pow _
  have few : x.coeff.natAbs < 10 ^ Decimal.precision := by
    have whole : (x.coeff * 10 ^ x.exp.toNat).natAbs < 10 ^ Decimal.precision := by
      simp only [inInt64, Bool.and_eq_true, decide_eq_true_eq] at small
      simp only [Decimal.precision]
      omega
    rw [Int.natAbs_mul, Int.natAbs_pow] at whole
    exact Nat.lt_of_le_of_lt (Nat.le_mul_of_pos_right _ (Nat.pow_pos (by decide))) whole
  exact ⟨small, by rw [ofInt, exact, Decimal.round_of_lt few]⟩

/-- A decimal that is no integer of 64 bits is not zero. -/
theorem Decimal.coeff_ne_zero_of_toInt64? (fraction : x.toInt64? = none) : x.coeff ≠ 0 := by
  intro zero
  rw [toInt64?, zero, exp_eq_zero zero] at fraction
  cases fraction

end Scaled

end Spreadsheet
