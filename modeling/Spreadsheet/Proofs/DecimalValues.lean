import Mathlib.Algebra.Order.Field.Power
import Mathlib.Data.Rat.Cast.Order
import Mathlib.Tactic.FieldSimp
import Mathlib.Tactic.Linarith
import Mathlib.Tactic.Positivity
import Mathlib.Tactic.Ring
import Spreadsheet.Proofs.DecimalForms

/-!
# Values of decimals

The value of a decimal is a rational number, and determines the decimal
(`Decimal.toRat_injective`). So laws of forms follow from laws of values. Rounding takes no notice
of signs (`Decimal.roundTo_neg`), and so products and quotients have the signs of values.
-/

namespace Spreadsheet

/-- The value of a decimal. -/
def Decimal.toRat (x : Decimal) : ℚ :=
  x.coeff * 10 ^ x.exp

section Values

variable {x y : Decimal}

theorem Decimal.stripZeros_value (fuel : ℕ) (coeff exp : ℤ) :
    ((stripZeros fuel coeff exp).1 : ℚ) * 10 ^ (stripZeros fuel coeff exp).2 =
      coeff * 10 ^ exp := by
  induction fuel generalizing coeff exp with
  | zero => rfl
  | succ fuel ih =>
    rw [stripZeros]
    split
    next divisible =>
      obtain ⟨tenth, rfl⟩ := Int.dvd_of_emod_eq_zero divisible
      rw [ih, Int.mul_ediv_cancel_left _ (by decide), zpow_add_one₀ (by norm_num)]
      push_cast
      ring
    next => rfl

@[simp] theorem Decimal.toRat_ofScaled (coeff exp : ℤ) :
    (ofScaled coeff exp).toRat = coeff * 10 ^ exp := by
  rw [ofScaled]
  split
  next zero => simp [toRat, zero]
  next => exact stripZeros_value _ coeff exp

@[simp] theorem Decimal.toRat_ofInt (n : ℤ) : (ofInt n).toRat = n := by
  rw [ofInt, toRat_ofScaled, zpow_zero, mul_one]

@[simp] theorem Decimal.toRat_neg (x : Decimal) : x.neg.toRat = -x.toRat := by
  simp [toRat, neg]

/-- Decimals with one value are one decimal. -/
theorem Decimal.toRat_injective : Function.Injective toRat := by
  have aligned : ∀ {x y : Decimal}, x.toRat = y.toRat → x.exp ≤ y.exp → x = y := by
    intro x y same le
    have shift : y.exp - ((y.exp - x.exp).toNat : ℤ) = x.exp := by omega
    have coeff : x.coeff = y.coeff * 10 ^ (y.exp - x.exp).toNat := by
      have unit : (10 : ℚ) ^ x.exp ≠ 0 := by positivity
      have scaled : (x.coeff : ℚ) * 10 ^ x.exp =
          y.coeff * 10 ^ (y.exp - x.exp).toNat * 10 ^ x.exp := by
        rw [mul_assoc, ← zpow_natCast, ← zpow_add₀ (by norm_num), Int.toNat_of_nonneg (by omega),
          sub_add_cancel]
        exact same
      exact_mod_cast mul_right_cancel₀ unit scaled
    rw [← y.ofScaled_mul_pow (y.exp - x.exp).toNat, shift, ← coeff, ofScaled_coeff]
  intro x y same
  rcases le_total x.exp y.exp with le | le
  · exact aligned same le
  · exact (aligned same.symm le).symm

theorem Decimal.toRat_pos : 0 < x.toRat ↔ 0 < x.coeff := by
  rw [toRat, mul_pos_iff_of_pos_right (by positivity), Int.cast_pos]

theorem Decimal.toRat_lt_zero : x.toRat < 0 ↔ x.coeff < 0 := by
  rw [← neg_pos, ← toRat_neg, toRat_pos]
  exact neg_pos

theorem Decimal.toRat_eq_zero : x.toRat = 0 ↔ x.coeff = 0 := by
  have scale : (10 : ℚ) ^ x.exp ≠ 0 := by positivity
  rw [toRat, mul_eq_zero_iff_right scale, Int.cast_eq_zero]

/-- The product of two decimals before it is rounded. -/
theorem Decimal.toRat_ofScaled_mul (x y : Decimal) :
    (ofScaled (x.coeff * y.coeff) (x.exp + y.exp)).toRat = x.toRat * y.toRat := by
  rw [toRat_ofScaled, toRat, toRat, zpow_add₀ (by norm_num)]
  push_cast
  ring

theorem Decimal.abs_toRat (x : Decimal) : |x.toRat| = x.coeff.natAbs * 10 ^ x.exp := by
  have scale : (0 : ℚ) < 10 ^ x.exp := by positivity
  rw [toRat, abs_mul, abs_of_pos scale, Nat.cast_natAbs, Int.cast_abs]

/-! ## Signs -/

theorem Decimal.coeff_ofScaled_pos {coeff exp : ℤ} (positive : 0 < coeff) :
    0 < (ofScaled coeff exp).coeff := by
  rw [← toRat_pos, toRat_ofScaled]
  positivity

theorem Decimal.coeff_ofScaled_neg {coeff exp : ℤ} (negative : coeff < 0) :
    (ofScaled coeff exp).coeff < 0 := by
  rw [← toRat_lt_zero, toRat_ofScaled]
  exact mul_neg_of_neg_of_pos (by exact_mod_cast negative) (by positivity)

theorem Decimal.ofScaled_neg (coeff exp : ℤ) : ofScaled (-coeff) exp = (ofScaled coeff exp).neg := by
  apply toRat_injective
  rw [toRat_neg, toRat_ofScaled, toRat_ofScaled]
  push_cast
  ring

theorem Decimal.roundTo_neg (digits : ℕ) (x : Decimal) :
    x.neg.roundTo digits = (x.roundTo digits).neg := by
  have magnitude : x.neg.coeff.natAbs = x.coeff.natAbs := Int.natAbs_neg x.coeff
  have sign : x.neg.coeff.sign = -x.coeff.sign := Int.sign_neg x.coeff
  rw [roundTo, roundTo, magnitude, sign]
  split
  · rfl
  · rw [Int.neg_mul, ofScaled_neg]
    rfl

theorem Decimal.neg_mul (x y : Decimal) : x.neg.mul y = (x.mul y).neg := by
  have product : ofScaled (x.neg.coeff * y.coeff) (x.neg.exp + y.exp) =
      (ofScaled (x.coeff * y.coeff) (x.exp + y.exp)).neg := by
    rw [← ofScaled_neg, ← Int.neg_mul]
    rfl
  rw [mul, product]
  exact roundTo_neg _ _

theorem Decimal.mul_comm (x y : Decimal) : x.mul y = y.mul x := by
  rw [mul, mul, Int.mul_comm, Int.add_comm]

theorem Decimal.mul_neg (x y : Decimal) : x.mul y.neg = (x.mul y).neg := by
  rw [mul_comm, neg_mul, mul_comm]

theorem Decimal.div_neg (x y : Decimal) : x.div y.neg = (x.div y).neg := by
  have magnitude : y.neg.coeff.natAbs = y.coeff.natAbs := Int.natAbs_neg y.coeff
  have sign : y.neg.coeff.sign = -y.coeff.sign := Int.sign_neg y.coeff
  rw [div, div, magnitude, sign]
  rw [Int.mul_neg, Int.neg_mul, ofScaled_neg]
  rfl

theorem Decimal.neg_div (x y : Decimal) : x.neg.div y = (x.div y).neg := by
  have magnitude : x.neg.coeff.natAbs = x.coeff.natAbs := Int.natAbs_neg x.coeff
  have sign : x.neg.coeff.sign = -x.coeff.sign := Int.sign_neg x.coeff
  rw [div, div, magnitude, sign]
  rw [Int.neg_mul, Int.neg_mul, ofScaled_neg]
  rfl

end Values

/-! ## Digits -/

theorem lt_pow_digitCount (n : ℕ) : n < 10 ^ digitCount n := by
  have enough : ∀ {fuel n : ℕ}, n < 10 ^ (fuel + 1) → n < 10 ^ digitCount.go fuel n := by
    intro fuel
    induction fuel with
    | zero => exact fun below => below
    | succ fuel ih =>
      intro n below
      rw [digitCount.go]
      split
      next small => simpa using small
      next =>
        rw [pow_succ] at below ⊢
        have tenth : n / 10 < 10 ^ digitCount.go fuel (n / 10) := ih (by omega)
        omega
  apply enough
  exact Nat.lt_log2_self.trans_le (Nat.pow_le_pow_left (by decide) _)

theorem digitCount_pos (n : ℕ) : 0 < digitCount n := by
  rw [digitCount]
  cases n.log2 with
  | zero => exact one_pos
  | succ fuel =>
    rw [digitCount.go]
    split <;> omega

/-- A number with a digit before the last `k` ones is at least the power of ten that this digit
stands for. -/
theorem pow_le_of_lt_digitCount {n k : ℕ} (nonzero : n ≠ 0) (digit : k < digitCount n) :
    10 ^ k ≤ n := by
  by_contra below
  cases k with
  | zero => exact below (Nat.one_le_iff_ne_zero.mpr nonzero)
  | succ k => exact absurd (digitCount_le (Nat.succ_pos k) (not_le.mp below)) (not_le.mpr digit)

theorem pow_pred_digitCount_le {n : ℕ} (nonzero : n ≠ 0) : 10 ^ (digitCount n - 1) ≤ n :=
  pow_le_of_lt_digitCount nonzero (Nat.sub_lt (digitCount_pos n) one_pos)

/-- A number has as many digits as the power of ten next to it says. -/
theorem pow_digitCount_le {n : ℕ} (nonzero : n ≠ 0) : 10 ^ digitCount n ≤ 10 * n := by
  calc 10 ^ digitCount n = 10 * 10 ^ (digitCount n - 1) := by
        rw [← pow_succ', Nat.sub_add_cancel (digitCount_pos n)]
    _ ≤ 10 * n := Nat.mul_le_mul_left 10 (pow_pred_digitCount_le nonzero)

/-! ## Rounding -/

theorem roundHalfUp_le {n m most : ℕ} (positive : 0 < m) (below : n ≤ most * m) :
    roundHalfUp n m ≤ most := by
  rw [roundHalfUp, ← Nat.lt_add_one_iff, Nat.div_lt_iff_lt_mul (by omega)]
  have doubled : (most + 1) * (2 * m) = 2 * (most * m) + 2 * m := by ring
  omega

theorem le_roundHalfUp {n m least : ℕ} (positive : 0 < m) (above : least * m ≤ n) :
    least ≤ roundHalfUp n m := by
  rw [roundHalfUp, Nat.le_div_iff_mul_le (by omega)]
  have doubled : least * (2 * m) = 2 * (least * m) := by ring
  omega

theorem abs_roundHalfUp_sub_le {n m : ℕ} (positive : 0 < m) :
    2 * |(roundHalfUp n m : ℚ) * m - n| ≤ m := by
  have below : 2 * m * roundHalfUp n m ≤ 2 * n + m := Nat.mul_div_le _ _
  have above : 2 * n + m < 2 * m * (roundHalfUp n m + 1) :=
    Nat.lt_mul_div_succ _ (Nat.mul_pos two_pos positive)
  have below' : (2 : ℚ) * m * roundHalfUp n m ≤ 2 * n + m := by exact_mod_cast below
  have above' : (2 : ℚ) * n + m ≤ 2 * m * (roundHalfUp n m + 1) := by exact_mod_cast above.le
  rw [← le_div_iff₀' two_pos, abs_le]
  constructor <;> linarith

section Rounding

variable {x : Decimal} {digits : ℕ}

/-- The number of digits that rounding takes away. -/
def Decimal.surplus (digits : ℕ) (x : Decimal) : ℕ :=
  digitCount x.coeff.natAbs - digits

theorem Decimal.roundTo_of_surplus (fits : x.surplus digits = 0) : x.roundTo digits = x :=
  if_pos fits

theorem Decimal.coeff_ne_zero_of_surplus (some_digit : 0 < digits) (cut : x.surplus digits ≠ 0) :
    x.coeff ≠ 0 := by
  intro zero
  rw [surplus, zero] at cut
  exact cut (Nat.sub_eq_zero_of_le some_digit)

/-- The coefficient of a rounded decimal, before zeros are taken away from its end. -/
theorem Decimal.roundTo_eq (digits : ℕ) (x : Decimal) :
    x.roundTo digits =
      ofScaled (x.coeff.sign * roundHalfUp x.coeff.natAbs (10 ^ x.surplus digits))
        (x.exp + x.surplus digits) := by
  rw [roundTo, ← surplus]
  split
  next fits =>
    have plain : roundHalfUp x.coeff.natAbs 1 = x.coeff.natAbs := by
      rw [roundHalfUp]
      omega
    rw [fits, pow_zero, plain, Int.sign_mul_natAbs, Int.natCast_zero, Int.add_zero, ofScaled_coeff]
  next => rfl

/-- What is left of a magnitude has at most the given number of digits, but for the next power of
ten. -/
theorem Decimal.roundHalfUp_natAbs_le (digits : ℕ) (x : Decimal) :
    roundHalfUp x.coeff.natAbs (10 ^ x.surplus digits) ≤ 10 ^ digits := by
  apply roundHalfUp_le (by positivity)
  rw [← pow_add]
  exact (lt_pow_digitCount _).le.trans
    (Nat.pow_le_pow_right (by decide) (by rw [surplus]; omega))

theorem Decimal.roundHalfUp_natAbs_pos (some_digit : 0 < digits) (nonzero : x.coeff ≠ 0) :
    0 < roundHalfUp x.coeff.natAbs (10 ^ x.surplus digits) := by
  have magnitude : x.coeff.natAbs ≠ 0 := Int.natAbs_ne_zero.mpr nonzero
  apply le_roundHalfUp (by positivity)
  rw [Nat.one_mul]
  by_cases fits : x.surplus digits = 0
  · rw [fits]
    exact Nat.one_le_iff_ne_zero.mpr magnitude
  · exact pow_le_of_lt_digitCount magnitude (by rw [surplus] at fits ⊢; omega)

theorem Decimal.stripZeros_natAbs_le (fuel : ℕ) (coeff exp : ℤ) :
    (stripZeros fuel coeff exp).1.natAbs ≤ coeff.natAbs := by
  induction fuel generalizing coeff exp with
  | zero => exact le_rfl
  | succ fuel ih =>
    rw [stripZeros]
    split
    · exact (ih _ _).trans (by omega)
    · exact le_rfl

theorem Decimal.natAbs_coeff_ofScaled_le (coeff exp : ℤ) :
    (ofScaled coeff exp).coeff.natAbs ≤ coeff.natAbs := by
  rw [ofScaled]
  split
  · exact Nat.zero_le _
  · exact stripZeros_natAbs_le _ coeff exp

/-- A rounded decimal has at most the given number of digits. -/
theorem Decimal.natAbs_coeff_roundTo_lt (x : Decimal) (some_digit : 0 < digits) :
    (x.roundTo digits).coeff.natAbs < 10 ^ digits := by
  have sign : x.coeff.sign.natAbs ≤ 1 := by
    rcases x.coeff.sign_trichotomy with same | same | same <;> rw [same] <;> decide
  have most : (x.roundTo digits).coeff.natAbs ≤ 10 ^ digits := by
    rw [roundTo_eq]
    refine (natAbs_coeff_ofScaled_le _ _).trans ?_
    rw [Int.natAbs_mul, Int.natAbs_natCast]
    calc x.coeff.sign.natAbs * roundHalfUp x.coeff.natAbs (10 ^ x.surplus digits)
        ≤ 1 * 10 ^ digits := Nat.mul_le_mul sign (x.roundHalfUp_natAbs_le digits)
      _ = 10 ^ digits := Nat.one_mul _
  refine lt_of_le_of_ne most fun power => ?_
  -- A power of ten ends in a zero, which a coefficient does not.
  obtain ⟨fewer, rfl⟩ : ∃ fewer, digits = fewer + 1 := ⟨digits - 1, by omega⟩
  have normal := (x.roundTo (fewer + 1)).normal
  rw [pow_succ] at power
  have : 0 < 10 ^ fewer := by positivity
  omega

theorem Decimal.natAbs_coeff_round_lt (x : Decimal) : x.round.coeff.natAbs < 10 ^ precision :=
  x.natAbs_coeff_roundTo_lt (by decide)

theorem Decimal.coeff_roundTo_pos (some_digit : 0 < digits) (positive : 0 < x.coeff) :
    0 < (x.roundTo digits).coeff := by
  have rounded := roundHalfUp_natAbs_pos some_digit positive.ne'
  rw [← toRat_pos, roundTo_eq, toRat_ofScaled, Int.sign_eq_one_of_pos positive, Int.one_mul]
  positivity

theorem Decimal.coeff_roundTo_neg (some_digit : 0 < digits) (negative : x.coeff < 0) :
    (x.roundTo digits).coeff < 0 := by
  have opposite : 0 < (x.neg.roundTo digits).coeff :=
    coeff_roundTo_pos some_digit (neg_pos.mpr negative)
  rw [roundTo_neg] at opposite
  exact neg_pos.mp opposite

theorem Decimal.toRat_eq_sign_mul (x : Decimal) :
    x.toRat = x.coeff.sign * (x.coeff.natAbs * 10 ^ x.exp) := by
  have magnitude := congrArg (Int.cast : ℤ → ℚ) (Int.sign_mul_natAbs x.coeff)
  rw [Int.cast_mul, Int.cast_natCast] at magnitude
  rw [← mul_assoc, magnitude, toRat]

theorem Decimal.toRat_roundTo (digits : ℕ) (x : Decimal) :
    (x.roundTo digits).toRat = x.coeff.sign *
      (roundHalfUp x.coeff.natAbs (10 ^ x.surplus digits) * 10 ^ x.surplus digits * 10 ^ x.exp) := by
  rw [roundTo_eq, toRat_ofScaled, zpow_add₀ (by norm_num), zpow_natCast]
  push_cast
  ring

theorem Decimal.abs_sign_mul (nonzero : x.coeff ≠ 0) (q : ℚ) : |(x.coeff.sign : ℚ) * q| = |q| := by
  rcases Int.lt_or_gt_of_ne nonzero with below | above
  · simp [Int.sign_eq_neg_one_of_neg below]
  · simp [Int.sign_eq_one_of_pos above]

/-- The digits that are not taken away make up the magnitude, up to the first of them. -/
theorem Decimal.pow_le_natAbs_coeff (nonzero : x.coeff ≠ 0) (cut : x.surplus digits ≠ 0) :
    10 ^ (digits + x.surplus digits - 1) ≤ x.coeff.natAbs := by
  apply pow_le_of_lt_digitCount (Int.natAbs_ne_zero.mpr nonzero)
  rw [surplus] at cut ⊢
  omega

/-- What rounding to `digits + 1` digits changes is at most half a unit in the last of them. -/
theorem Decimal.abs_toRat_roundTo_sub_le (digits : ℕ) (x : Decimal) :
    2 * 10 ^ digits * |(x.roundTo (digits + 1)).toRat - x.toRat| ≤
      |(x.roundTo (digits + 1)).toRat| := by
  by_cases fits : x.surplus (digits + 1) = 0
  · rw [roundTo_of_surplus fits, sub_self, abs_zero, mul_zero]
    exact abs_nonneg _
  have nonzero : x.coeff ≠ 0 := coeff_ne_zero_of_surplus (Nat.succ_pos digits) fits
  have first : 10 ^ digits * 10 ^ x.surplus (digits + 1) ≤ x.coeff.natAbs := by
    rw [← pow_add]
    refine le_trans (Nat.pow_le_pow_right (by decide) ?_) (pow_le_natAbs_coeff nonzero fits)
    omega
  have digit := le_roundHalfUp (by positivity) first
  have close := abs_roundHalfUp_sub_le (n := x.coeff.natAbs) (m := 10 ^ x.surplus (digits + 1))
    (by positivity)
  have unit : (0 : ℚ) < 10 ^ x.exp := by positivity
  rw [toRat_roundTo, toRat_eq_sign_mul x, ← mul_sub, abs_sign_mul nonzero, abs_sign_mul nonzero,
    ← sub_mul, abs_mul, abs_of_pos unit]
  generalize x.surplus (digits + 1) = cut at digit close
  generalize roundHalfUp x.coeff.natAbs (10 ^ cut) = q at digit close
  have least : (10 : ℚ) ^ digits ≤ q := by exact_mod_cast digit
  have positive : (0 : ℚ) ≤ q * 10 ^ cut * 10 ^ x.exp := by positivity
  rw [abs_of_nonneg positive]
  push_cast at close
  calc 2 * 10 ^ digits * (|(q : ℚ) * 10 ^ cut - x.coeff.natAbs| * 10 ^ x.exp)
      = 10 ^ digits * (2 * |(q : ℚ) * 10 ^ cut - x.coeff.natAbs|) * 10 ^ x.exp := by ring
    _ ≤ q * 10 ^ cut * 10 ^ x.exp := by gcongr

theorem Decimal.abs_toRat_round_sub_le (x : Decimal) :
    2 * 10 ^ 49 * |x.round.toRat - x.toRat| ≤ |x.round.toRat| :=
  abs_toRat_roundTo_sub_le 49 x

end Rounding

end Spreadsheet
