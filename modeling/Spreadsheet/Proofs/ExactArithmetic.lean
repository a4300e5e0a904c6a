import Mathlib.Algebra.Order.Group.Abs
import Spreadsheet.Proofs.DecimalValues

/-!
# Exact arithmetic

A sum or a product is exact if its value has no more digits than arithmetic keeps
(`Decimal.toRat_add`, `Decimal.toRat_mul`). Multiples of a power of ten have so few digits while they
are small (`IsMultiple.isRepresentable`).

Where a result is rounded, it still lies on the same side of every number of so few digits as the
exact value (`Decimal.le_toRat_round`, `Decimal.le_toRat_div`).
-/

namespace Spreadsheet

/-- Whether a rational number has at most as many significant digits as arithmetic keeps. -/
def IsRepresentable (q : ℚ) : Prop :=
  ∃ coeff exp : ℤ, coeff.natAbs < 10 ^ Decimal.precision ∧ q = coeff * 10 ^ exp

/-- Whether a rational number is an integer multiple of a power of ten. -/
def IsMultiple (exp : ℤ) (q : ℚ) : Prop :=
  ∃ k : ℤ, q = k * 10 ^ exp

section Multiples

variable {exp : ℤ} {p q : ℚ}

theorem isMultiple_zero (exp : ℤ) : IsMultiple exp 0 :=
  ⟨0, by rw [Int.cast_zero, zero_mul]⟩

theorem IsMultiple.add (left : IsMultiple exp p) (right : IsMultiple exp q) :
    IsMultiple exp (p + q) := by
  obtain ⟨j, rfl⟩ := left
  obtain ⟨k, rfl⟩ := right
  exact ⟨j + k, by rw [Int.cast_add, add_mul]⟩

theorem IsMultiple.neg (multiple : IsMultiple exp q) : IsMultiple exp (-q) := by
  obtain ⟨k, rfl⟩ := multiple
  exact ⟨-k, by rw [Int.cast_neg, neg_mul]⟩

/-- A multiple of a power of ten is zero or at least that power in magnitude. -/
theorem IsMultiple.pow_le_abs (multiple : IsMultiple exp q) (nonzero : q ≠ 0) : 10 ^ exp ≤ |q| := by
  obtain ⟨k, rfl⟩ := multiple
  have unit : (0 : ℚ) < 10 ^ exp := by positivity
  have one : 1 ≤ |k| := Int.one_le_abs (by rintro rfl; simp at nonzero)
  rw [abs_mul, abs_of_pos unit]
  exact le_mul_of_one_le_left unit.le (by exact_mod_cast one)

/-- A small multiple of a power of ten has few digits before the last place that it can have. -/
theorem IsMultiple.isRepresentable (multiple : IsMultiple exp q)
    (small : |q| < 10 ^ (Decimal.precision + exp)) : IsRepresentable q := by
  obtain ⟨k, rfl⟩ := multiple
  have unit : (0 : ℚ) < 10 ^ exp := by positivity
  rw [abs_mul, abs_of_pos unit, zpow_add₀ (by norm_num), zpow_natCast,
    mul_lt_mul_iff_left₀ unit, ← Int.cast_abs, Int.abs_eq_natAbs, Int.cast_natCast] at small
  exact ⟨k, exp, by exact_mod_cast small, rfl⟩

end Multiples

section Exactness

variable {x y : Decimal}

theorem Decimal.natAbs_coeff_lt (few : IsRepresentable x.toRat) :
    x.coeff.natAbs < 10 ^ precision := by
  obtain ⟨coeff, exp, small, value⟩ := few
  have form : x = ofScaled coeff exp := toRat_injective (by rw [value, toRat_ofScaled])
  rw [form]
  exact (natAbs_coeff_ofScaled_le coeff exp).trans_lt small

/-- Rounding to the working precision or beyond it leaves a decimal of few digits alone. -/
theorem Decimal.roundTo_of_isRepresentable (few : IsRepresentable x.toRat) {digits : ℕ}
    (enough : precision ≤ digits) : x.roundTo digits = x := by
  have short : digitCount x.coeff.natAbs ≤ precision := digitCount_le (by decide) (natAbs_coeff_lt few)
  exact roundTo_of_surplus (Nat.sub_eq_zero_of_le (short.trans enough))

theorem Decimal.inUnits_mul {base : ℤ} (below : base ≤ x.exp) :
    (x.inUnits base : ℚ) * 10 ^ base = x.toRat := by
  have exponent : ((x.exp - base).toNat : ℤ) + base = x.exp := by omega
  have power : (10 : ℚ) ^ (x.exp - base).toNat * 10 ^ base = 10 ^ x.exp := by
    rw [← zpow_natCast, ← zpow_add₀ (by norm_num), exponent]
  rw [toRat, ← power, inUnits]
  push_cast
  ring

theorem Decimal.toRat_exactAdd (x y : Decimal) : (x.exactAdd y).toRat = x.toRat + y.toRat := by
  rw [exactAdd, toRat_ofScaled, Int.cast_add, add_mul, inUnits_mul (min_le_left _ _),
    inUnits_mul (min_le_right _ _)]

/-- A sum of few digits is not rounded, whether or not a guard digit is kept. -/
theorem Decimal.toRat_add (few : IsRepresentable (x.toRat + y.toRat)) :
    (x.add y).toRat = x.toRat + y.toRat := by
  have exact := toRat_exactAdd x y
  have whole : IsRepresentable (x.exactAdd y).toRat := by rwa [exact]
  unfold add
  split
  next zero => rw [toRat_eq_zero.mpr zero, zero_add]
  split
  next zero => rw [toRat_eq_zero.mpr zero, add_zero]
  split
  · rw [round, roundTo_of_isRepresentable whole le_rfl, exact]
  · rw [roundTo_of_isRepresentable whole (Nat.le_succ _), exact]

/-- A product of few digits is not rounded. -/
theorem Decimal.toRat_mul (few : IsRepresentable (x.toRat * y.toRat)) :
    (x.mul y).toRat = x.toRat * y.toRat := by
  have product := toRat_ofScaled_mul x y
  rw [mul, round, roundTo_of_isRepresentable (by rwa [product]) le_rfl, product]

end Exactness

/-! ## Rounded ratios -/

section Ratios

variable {b : ℚ} {x y : Decimal}

/-- A ratio that is rounded to an integer does not cross another integer. -/
theorem le_sign_mul_roundHalfUp {c k : ℤ} {m : ℕ} (positive : 0 < m) (below : k * m ≤ c) :
    k ≤ c.sign * roundHalfUp c.natAbs m := by
  rcases lt_or_ge c 0 with negative | nonnegative
  · obtain ⟨n, rfl⟩ := Int.exists_eq_neg_ofNat negative.le
    have left : k ≤ 0 := by
      by_contra right
      have product : 0 ≤ k * (m : ℤ) := Int.mul_nonneg (not_le.mp right).le (by positivity)
      omega
    obtain ⟨j, rfl⟩ := Int.exists_eq_neg_ofNat left
    rw [Int.neg_mul, neg_le_neg_iff] at below
    have rounded : roundHalfUp n m ≤ j := roundHalfUp_le positive (by exact_mod_cast below)
    rw [Int.sign_eq_neg_one_of_neg negative, Int.natAbs_neg, Int.natAbs_natCast, Int.neg_one_mul]
    exact neg_le_neg (by exact_mod_cast rounded)
  · obtain ⟨n, rfl⟩ := Int.eq_ofNat_of_zero_le nonnegative
    have sign : 0 ≤ (n : ℤ).sign := Int.sign_nonneg_iff.mpr nonnegative
    rcases le_or_gt k 0 with left | right
    · exact left.trans (by positivity)
    obtain ⟨j, rfl⟩ := Int.eq_ofNat_of_zero_le right.le
    have rounded : j ≤ roundHalfUp n m := le_roundHalfUp positive (by exact_mod_cast below)
    have above : 0 < (n : ℤ) := (Int.mul_pos right (by omega)).trans_le below
    rw [Int.sign_eq_one_of_pos above, Int.one_mul, Int.natAbs_natCast]
    exact_mod_cast rounded

/-- Next to fifty digits that end at a given place, a number of few digits has none behind that
place, or is smaller than all of them. -/
theorem IsRepresentable.isMultiple_or_abs_lt (few : IsRepresentable b) (place : ℤ) :
    IsMultiple place b ∨ |b| < 10 ^ 49 * 10 ^ place := by
  obtain ⟨k, exp, small, rfl⟩ := few
  rcases le_or_gt place exp with coarse | fine
  · refine .inl ⟨k * 10 ^ (exp - place).toNat, ?_⟩
    push_cast
    rw [mul_assoc, ← zpow_natCast, ← zpow_add₀ (by norm_num), Int.toNat_of_nonneg (by omega),
      sub_add_cancel]
  · refine .inr ?_
    have unit : (0 : ℚ) < 10 ^ exp := by positivity
    have digits : |(k : ℚ)| < 10 ^ 50 := by
      rw [← Int.cast_abs, Int.abs_eq_natAbs]
      exact_mod_cast small
    rw [abs_mul, abs_of_pos unit]
    calc |(k : ℚ)| * 10 ^ exp < 10 ^ 50 * 10 ^ exp := by gcongr
      _ = 10 ^ 49 * 10 ^ (exp + 1) := by rw [zpow_add_one₀ (by norm_num)]; ring
      _ ≤ 10 ^ 49 * 10 ^ place := by gcongr <;> [norm_num; omega]

/-- A ratio that is rounded to fifty digits or more does not cross a number of few digits. -/
theorem IsRepresentable.le_rounded (few : IsRepresentable b) {c place : ℤ} {m : ℕ}
    (positive : 0 < m) (long : 10 ^ 49 * m ≤ c.natAbs) (below : b ≤ c / m * 10 ^ place) :
    b ≤ (c.sign * roundHalfUp c.natAbs m : ℤ) * 10 ^ place := by
  have unit : (0 : ℚ) < 10 ^ place := by positivity
  have divisor : (0 : ℚ) < m := by exact_mod_cast positive
  rcases few.isMultiple_or_abs_lt place with ⟨k, rfl⟩ | small
  · rw [mul_le_mul_iff_left₀ unit, le_div_iff₀ divisor] at below
    rw [mul_le_mul_iff_left₀ unit]
    exact_mod_cast le_sign_mul_roundHalfUp positive (by exact_mod_cast below)
  · have above : 0 < c := by
      by_contra! negative
      have far : (c : ℚ) ≤ -10 ^ 49 * m := by
        have : c ≤ -10 ^ 49 * m := by omega
        exact_mod_cast this
      have low : (c : ℚ) / m * 10 ^ place ≤ -10 ^ 49 * 10 ^ place := by
        gcongr
        exact (div_le_iff₀ divisor).mpr far
      linarith [neg_abs_le b]
    have first : 10 ^ 49 ≤ c.sign * roundHalfUp c.natAbs m :=
      le_sign_mul_roundHalfUp positive (by omega)
    calc b ≤ |b| := le_abs_self b
      _ ≤ 10 ^ 49 * 10 ^ place := small.le
      _ ≤ (c.sign * roundHalfUp c.natAbs m : ℤ) * 10 ^ place := by
        gcongr
        exact_mod_cast first

/-- Rounding does not cross a number of few digits. -/
theorem Decimal.le_toRat_round (few : IsRepresentable b) (below : b ≤ x.toRat) :
    b ≤ x.round.toRat := by
  by_cases fits : x.surplus precision = 0
  · rwa [round, roundTo_of_surplus fits]
  have nonzero : x.coeff ≠ 0 := coeff_ne_zero_of_surplus (by decide) fits
  have long : 10 ^ 49 * 10 ^ x.surplus precision ≤ x.coeff.natAbs := by
    rw [← pow_add]
    refine le_trans (Nat.pow_le_pow_right (by decide) ?_) (pow_le_natAbs_coeff nonzero fits)
    rw [precision]
    omega
  have ratio : x.toRat =
      x.coeff / (10 ^ x.surplus precision : ℕ) * 10 ^ (x.exp + x.surplus precision) := by
    rw [toRat, zpow_add₀ (by norm_num), zpow_natCast]
    push_cast
    field_simp
  rw [ratio] at below
  rw [round, roundTo_eq, toRat_ofScaled]
  exact few.le_rounded (by positivity) long below

/-- A quotient that is not exact is computed to fifty digits at least. -/
theorem Decimal.pow_mul_le_mul_pow_quotientShift {n m : ℕ} (inexact : n % m ≠ 0) (positive : 0 < m) :
    10 ^ 49 * m ≤ n * 10 ^ quotientShift n m := by
  rw [quotientShift, if_neg inexact]
  split
  next less =>
    have nonzero : n ≠ 0 := by
      rintro rfl
      exact inexact (Nat.zero_mod m)
    have first := pow_pred_digitCount_le nonzero
    have shorter : digitCount n - 1 < digitCount m :=
      (Nat.pow_lt_pow_iff_right (by decide)).mp
        ((first.trans_lt less).trans (lt_pow_digitCount m))
    calc 10 ^ 49 * m ≤ 10 ^ 49 * 10 ^ digitCount m :=
          Nat.mul_le_mul_left _ (lt_pow_digitCount m).le
      _ = 10 ^ (digitCount n - 1) * 10 ^ (digitCount m + precision - digitCount n) := by
        rw [← pow_add, ← pow_add, precision]
        have some_digit := digitCount_pos n
        congr 1
        omega
      _ ≤ n * 10 ^ (digitCount m + precision - digitCount n) := Nat.mul_le_mul_right _ first
  next notLess =>
    have nonzero : n / m ≠ 0 := (Nat.div_pos (not_lt.mp notLess) positive).ne'
    have first := pow_pred_digitCount_le nonzero
    calc 10 ^ 49 * m ≤ 10 ^ (digitCount (n / m) - 1) * 10 ^ (precision - digitCount (n / m)) * m := by
          rw [← pow_add, precision]
          gcongr <;> omega
      _ ≤ n / m * 10 ^ (precision - digitCount (n / m)) * m := by gcongr
      _ = n / m * m * 10 ^ (precision - digitCount (n / m)) := Nat.mul_right_comm _ _ _
      _ ≤ n * 10 ^ (precision - digitCount (n / m)) := by
        gcongr
        exact Nat.div_mul_le_self n m

theorem Decimal.toRat_div_eq_rounded (positive : 0 < y.coeff) (shift : ℕ)
    (shifted : quotientShift x.coeff.natAbs y.coeff.natAbs = shift) :
    (x.div y).toRat =
      ((x.coeff * 10 ^ shift).sign * roundHalfUp (x.coeff * 10 ^ shift).natAbs y.coeff.natAbs : ℤ) *
        10 ^ (x.exp - y.exp - shift) := by
  have power : (10 ^ shift : ℤ).sign = 1 := Int.sign_eq_one_of_pos (by positivity)
  rw [div, shifted, toRat_ofScaled, Int.sign_eq_one_of_pos positive, Int.sign_mul, power,
    Int.natAbs_mul, Int.natAbs_pow]
  rfl

theorem Decimal.toRat_div_toRat (positive : 0 < y.coeff) (shift : ℕ) :
    x.toRat / y.toRat =
      (x.coeff * 10 ^ shift : ℤ) / y.coeff.natAbs * 10 ^ (x.exp - y.exp - shift) := by
  have divisor : (y.coeff.natAbs : ℚ) = y.coeff := by
    rw [Nat.cast_natAbs, abs_of_pos positive]
  have nonzero : (y.coeff : ℚ) ≠ 0 := by exact_mod_cast positive.ne'
  rw [toRat, toRat, divisor, zpow_sub₀ (by norm_num), zpow_sub₀ (by norm_num), zpow_natCast]
  push_cast
  field_simp

/-- Nor does division by a positive number. -/
theorem Decimal.le_toRat_div (positive : 0 < y.coeff) (few : IsRepresentable b)
    (below : b ≤ x.toRat / y.toRat) : b ≤ (x.div y).toRat := by
  have divisor : 0 < y.coeff.natAbs := Int.natAbs_pos.mpr positive.ne'
  rw [toRat_div_toRat positive (quotientShift x.coeff.natAbs y.coeff.natAbs)] at below
  rw [toRat_div_eq_rounded positive _ rfl]
  by_cases exact : x.coeff.natAbs % y.coeff.natAbs = 0
  · have divides : (y.coeff.natAbs : ℤ) ∣ x.coeff := Int.natCast_dvd.mpr (Nat.dvd_of_mod_eq_zero exact)
    obtain ⟨k, quotient⟩ := divides.mul_right (10 ^ quotientShift x.coeff.natAbs y.coeff.natAbs)
    rw [quotient] at below ⊢
    have rounded := le_sign_mul_roundHalfUp (k := k) divisor (Int.mul_comm _ _).le
    have whole : ((y.coeff.natAbs * k : ℤ) : ℚ) / y.coeff.natAbs = k := by
      have nonzero : (y.coeff.natAbs : ℚ) ≠ 0 := by exact_mod_cast divisor.ne'
      rw [Int.cast_mul, Int.cast_natCast, mul_div_cancel_left₀ _ nonzero]
    rw [whole] at below
    refine below.trans ?_
    gcongr
  · refine few.le_rounded divisor ?_ below
    rw [Int.natAbs_mul, Int.natAbs_pow]
    exact pow_mul_le_mul_pow_quotientShift exact divisor

end Ratios
end Spreadsheet
