import Mathlib.Analysis.SpecialFunctions.Pow.Real
import Spreadsheet.Proofs.Infinities
import Spreadsheet.Proofs.Logarithms
import Spreadsheet.Proofs.Powers

/-!
# Fractional powers of decimals below one

The logarithm of such a power is negative, so the power is never too large, and whatever is
computed for it is positive: a product, or the exponential of the logarithm
(`Decimal.coeff_exponential_pos`). Only a power that is taken for zero is zero. That is meant for
tiny powers, but the logarithm is compared with the least one as a double, and has none if its
exponent is below -308: powers next to one are taken for zero too (`Number.pow?_fraction`).
-/

namespace Spreadsheet

/-! ## Comparing doubles -/

/-- The value of a finite double. -/
def Binary64.finiteValue (negative : Bool) (m : ℕ) (e : ℤ) : ℚ :=
  (if negative then -(m : ℚ) else m) * 2 ^ e

section Doubles

variable {s t : Bool} {m n : ℕ} {e f base : ℤ}

theorem Binary64.inUnits_eq (above : base ≤ e) :
    (inUnits s m e base : ℚ) * 2 ^ base = finiteValue s m e := by
  have exponent : ((e - base).toNat : ℤ) + base = e := by omega
  have power : (2 : ℚ) ^ (e - base).toNat * 2 ^ base = 2 ^ e := by
    rw [← zpow_natCast, ← zpow_add₀ two_ne_zero, exponent]
  rw [inUnits, finiteValue, ← power]
  cases s <;> simp [mul_assoc]

/-- Finite doubles are ordered by their values. -/
theorem Binary64.compare?_finite :
    (finite s m e).compare? (finite t n f) =
      some (cmp (finiteValue s m e) (finiteValue t n f)) := by
  have unit : (0 : ℚ) < 2 ^ min e f := by positivity
  rw [← inUnits_eq (min_le_left e f), ← inUnits_eq (min_le_right e f), cmp_mul_pos_right unit,
    Int.cast_strictMono.cmp_map_eq, cmp_eq_compare]
  rfl

/-- A value of negative sign is not greater than a finite one of positive sign. -/
theorem Binary64.HasSign.compare?_ne_gt {x : Binary64} (sign : HasSign true x) (n : ℕ) (f : ℤ) :
    x.compare? (.finite false n f) ≠ some .gt := by
  cases sign with
  | finite m e =>
    have order : finiteValue true m e ≤ finiteValue false n f := by
      have left : (0 : ℚ) ≤ m * 2 ^ e := by positivity
      have right : (0 : ℚ) ≤ n * 2 ^ f := by positivity
      simp only [finiteValue, if_true, Bool.false_eq_true, if_false]
      linarith
    rw [compare?_finite, Ne, Option.some_inj, cmp_eq_gt_iff]
    exact order.not_gt
  | infinity =>
    rw [Binary64.compare?]
    decide

end Doubles

/-! ## Signs of logarithms and exponentials -/

section Signs

variable {x y : Decimal}

theorem Decimal.coeff_mul_pos (positive : 0 < x.coeff) (positive' : 0 < y.coeff) :
    0 < (x.mul y).coeff :=
  coeff_roundTo_pos (by decide) (coeff_ofScaled_pos (Int.mul_pos positive positive'))

theorem Decimal.coeff_mul_neg (negative : x.coeff < 0) (positive : 0 < y.coeff) :
    (x.mul y).coeff < 0 :=
  coeff_roundTo_neg (by decide) (coeff_ofScaled_neg (Int.mul_neg_of_neg_of_pos negative positive))

/-- The logarithm of a positive power of a decimal below one is negative. -/
theorem Decimal.coeff_powerLog_neg (positive : 0 < x.coeff) (below : x.toRat < 1)
    (exponent : 0 < y.coeff) : (x.powerLog y).coeff < 0 :=
  coeff_mul_neg (coeff_log_neg positive below) exponent

/-- An exponential is positive: its series has positive terms, the first of which is one. -/
theorem Decimal.coeff_exponential_pos (x : Decimal) : 0 < x.exponential.coeff := by
  rw [exponential]
  split
  next => decide
  next =>
    obtain ⟨places, settled, -⟩ := settle_cases x.encloseExp 8 90
    have lower : 0 < (x.encloseExp places).2.lower := by
      rw [encloseExp, expSum]
      positivity
    rw [settled]
    exact coeff_roundTo_pos (by decide) (coeff_ofScaled_pos lower)

end Signs

/-! ## Fractional powers -/

theorem Decimal.greatestLog_eq : greatestLog = .finite false (10 ^ 15 * 2 ^ 3) (-3) := by
  decide +kernel

section Powers

variable {x y : Decimal}

theorem Decimal.not_isPowerTooLarge (positive : 0 < x.coeff) (below : x.toRat < 1)
    (exponent : 0 < y.coeff) : ¬ x.IsPowerTooLarge y := by
  have sign := (x.powerLog y).hasSign_toBinary64
  rw [decide_eq_true (coeff_powerLog_neg positive below exponent)] at sign
  rw [IsPowerTooLarge, greatestLog_eq]
  exact sign.compare?_ne_gt _ _

/-- Below an exponent of -308 the logarithm has no double, and counts as minus infinity. -/
theorem Decimal.isPowerTooSmall_of_exp (positive : 0 < x.coeff) (below : x.toRat < 1)
    (exponent : 0 < y.coeff) (place : (x.powerLog y).exp < -308) : x.IsPowerTooSmall y := by
  have negative := coeff_powerLog_neg positive below exponent
  rw [IsPowerTooSmall, toBinary64_eq, toBinary64?_eq_none (.inl place), Option.getD_none,
    decide_eq_true negative, greatestLog_eq]
  rfl

/-- Otherwise the logarithm has a double near it. -/
theorem Decimal.not_isPowerTooSmall (place : -308 ≤ (x.powerLog y).exp)
    (range : |(x.powerLog y).toRat| ≤ 10 ^ 13) : ¬ x.IsPowerTooSmall y := by
  have digits : ((x.powerLog y).coeff.natAbs : ℚ) ≤ 10 ^ 50 := by
    exact_mod_cast (natAbs_coeff_round_lt _).le
  have finite := Binary64.isFinite_ofInt_leadingBits
    (digits.trans (pow_le_pow_right₀ (by norm_num) (by decide)))
  obtain ⟨m, e, double, magnitude⟩ := exists_toBinary64?
    (range.trans (pow_le_pow_right₀ (by norm_num) (by decide))) ⟨place, finite⟩
  have least : -(10 ^ 15 : ℚ) ≤ Binary64.finiteValue ((x.powerLog y).coeff < 0) m e := by
    have positive : (0 : ℚ) ≤ m * 2 ^ e := by positivity
    rw [Binary64.finiteValue]
    split <;> linarith
  have bound : Binary64.finiteValue true (10 ^ 15 * 2 ^ 3) (-3) = -(10 ^ 15 : ℚ) := by
    norm_num [Binary64.finiteValue]
  rw [IsPowerTooSmall, toBinary64_eq, double, Option.getD_some, greatestLog_eq, Binary64.neg,
    Bool.not_false, Binary64.compare?_finite, Option.some_inj, cmp_eq_lt_iff, bound]
  exact least.not_gt

/-- An exponent up to one is one, and multiplied out, or no integer. -/
theorem Decimal.toInt64?_of_le_one (exponent : 0 < y.coeff) (fraction : y.toRat ≤ 1) :
    y.toInt64? = some 1 ∨ y.toInt64? = none := by
  by_cases whole : 0 ≤ y.exp
  · have one : y.toRat = (1 : ℤ) := by
      refine le_antisymm (by exact_mod_cast fraction) ?_
      have digit : (1 : ℚ) ≤ y.coeff := by exact_mod_cast exponent
      have scale : (1 : ℚ) ≤ 10 ^ y.exp := one_le_zpow₀ (by norm_num) whole
      rw [toRat, Int.cast_one]
      exact one_le_mul_of_one_le_of_one_le digit scale
    left
    rw [toInt64?_of_toRat_eq one]
    rfl
  · right
    rw [toInt64?, if_neg fun place => whole place.1]

/-- The logarithm of a power is computed to nearly fifty digits. -/
theorem Decimal.abs_powerLog_sub_le (positive : 0 < x.coeff) (y : Decimal) :
    10 ^ 48 * |((x.powerLog y).toRat : ℝ) - Real.log x.toRat * y.toRat| ≤
      |((x.powerLog y).toRat : ℝ)| := by
  -- Two roundings: that of the product here, and that of the logarithm in it.
  have close := abs_cast_round_sub_le (ofScaled (x.log.coeff * y.coeff) (x.log.exp + y.exp))
  have log := mul_le_mul_of_nonneg_right (abs_log_sub_le positive) (abs_nonneg (y.toRat : ℝ))
  rw [mul_assoc, ← abs_mul, ← abs_mul, sub_mul] at log
  rw [toRat_ofScaled_mul, Rat.cast_mul] at close
  change 2 * 10 ^ 49 * |((x.powerLog y).toRat : ℝ) - _| ≤ |((x.powerLog y).toRat : ℝ)| at close
  have chain := abs_sub_le ((x.powerLog y).toRat : ℝ) (x.log.toRat * y.toRat)
    (Real.log x.toRat * y.toRat)
  have back := abs_sub_abs_le_abs_sub ((x.log.toRat : ℝ) * y.toRat) (x.powerLog y).toRat
  rw [abs_sub_comm] at back
  linarith [abs_nonneg ((x.powerLog y).toRat : ℝ)]

/-- A logarithm has at most fifty digits, so one of so low an exponent is small. -/
theorem Decimal.abs_powerLog_lt (place : (x.powerLog y).exp < -308) :
    |(x.powerLog y).toRat| < 10 ^ (-258 : ℤ) := by
  have unit : (0 : ℚ) < 10 ^ (x.powerLog y).exp := by positivity
  have digits : ((x.powerLog y).coeff.natAbs : ℚ) < 10 ^ 50 := by
    exact_mod_cast natAbs_coeff_round_lt _
  rw [abs_toRat]
  calc ((x.powerLog y).coeff.natAbs : ℚ) * 10 ^ (x.powerLog y).exp
      < 10 ^ 50 * 10 ^ (x.powerLog y).exp := mul_lt_mul_of_pos_right digits unit
    _ = 10 ^ (50 + (x.powerLog y).exp) := by rw [zpow_add₀ (by norm_num)]; rfl
    _ ≤ 10 ^ (-258 : ℤ) := zpow_le_zpow_right₀ (by norm_num) (by omega)

/-- The real power is the exponential of the logarithm that `Decimal.powerLog` computes. -/
theorem Decimal.toRat_rpow (positive : 0 < x.coeff) (y : Decimal) :
    (x.toRat : ℝ) ^ (y.toRat : ℝ) = Real.exp (Real.log x.toRat * y.toRat) :=
  Real.rpow_def_of_pos (by exact_mod_cast toRat_pos.mpr positive) _

/-- A logarithm of so low an exponent is one of a power next to one. -/
theorem Decimal.lt_power_of_exp (positive : 0 < x.coeff) (place : (x.powerLog y).exp < -308) :
    1 - 10 ^ (-257 : ℤ) < (x.toRat : ℝ) ^ (y.toRat : ℝ) := by
  have small := (Rat.cast_lt (K := ℝ)).mpr (abs_powerLog_lt place)
  rw [Rat.cast_abs, Rat.cast_zpow, Rat.cast_ofNat] at small
  have scale : (10 : ℝ) ^ (-257 : ℤ) = 10 * 10 ^ (-258 : ℤ) := by
    rw [← zpow_one_add₀ (by norm_num)]
    rfl
  have accuracy := abs_powerLog_sub_le positive y
  have close := le_abs_self (((x.powerLog y).toRat : ℝ) - Real.log x.toRat * y.toRat)
  have lower := neg_abs_le ((x.powerLog y).toRat : ℝ)
  have tangent := Real.add_one_le_exp (Real.log x.toRat * y.toRat)
  rw [toRat_rpow positive, scale]
  generalize (10 : ℝ) ^ (-258 : ℤ) = ε at small
  linarith [abs_nonneg ((x.powerLog y).toRat : ℝ)]

/-- Of the logarithms with a double, only those of tiny powers are below the least one. -/
theorem Decimal.power_lt_of_isPowerTooSmall (positive : 0 < x.coeff) (below : x.toRat < 1)
    (exponent : 0 < y.coeff) (place : -308 ≤ (x.powerLog y).exp) (small : x.IsPowerTooSmall y) :
    (x.toRat : ℝ) ^ (y.toRat : ℝ) < Real.exp (-10 ^ 12) := by
  rw [toRat_rpow positive, Real.exp_lt_exp]
  by_contra! range
  have sign : ((x.powerLog y).toRat : ℝ) < 0 := by
    exact_mod_cast toRat_lt_zero.mpr (coeff_powerLog_neg positive below exponent)
  have accuracy := abs_powerLog_sub_le positive y
  have near := neg_abs_le (((x.powerLog y).toRat : ℝ) - Real.log x.toRat * y.toRat)
  have bound : |((x.powerLog y).toRat : ℝ)| ≤ 10 ^ 13 := by
    rw [abs_of_neg sign] at accuracy ⊢
    linarith
  exact not_isPowerTooSmall place (by exact_mod_cast bound) small

/-- A power of a decimal below one, with an exponent up to one, is computed and positive, unless it is
taken for zero. That happens if its logarithm has so low an exponent that it has no double, although
the power is then next to one, and otherwise only if the power is tiny. -/
theorem Number.pow?_fraction (positive : 0 < x.coeff) (below : x.toRat < 1)
    (exponent : 0 < y.coeff) (fraction : y.toRat ≤ 1) :
    (∃ z, (decimal x).pow? (.decimal y) = .ok (.decimal z) ∧
      0 ≤ z.coeff ∧ (z.coeff = 0 ↔ x.IsPowerTooSmall y)) ∧
    ((x.powerLog y).exp < -308 → x.IsPowerTooSmall y ∧
      1 - 10 ^ (-257 : ℤ) < (x.toRat : ℝ) ^ (y.toRat : ℝ)) ∧
    (x.IsPowerTooSmall y → (x.powerLog y).exp < -308 ∨
      (x.toRat : ℝ) ^ (y.toRat : ℝ) < Real.exp (-10 ^ 12)) := by
  refine ⟨?_, fun low => ⟨Decimal.isPowerTooSmall_of_exp positive below exponent low,
    Decimal.lt_power_of_exp positive low⟩, fun tiny => or_iff_not_imp_left.mpr fun place =>
    Decimal.power_lt_of_isPowerTooSmall positive below exponent (not_lt.mp place) tiny⟩
  rw [pow?, if_neg exponent.ne', if_neg positive.ne', Decimal.pow?_of_pos positive,
    if_neg (Decimal.not_isPowerTooLarge positive below exponent)]
  by_cases tiny : x.IsPowerTooSmall y
  · rw [if_pos tiny]
    exact ⟨.ofInt 0, rfl, by decide, fun _ => tiny, fun _ => by decide⟩
  rw [if_neg tiny]
  -- An exponent of one is multiplied out, every other one goes through the exponential.
  rcases Decimal.toInt64?_of_le_one exponent fraction with one | none
  · have product : 0 < (x.powInt 1).coeff := Decimal.coeff_mul_pos (by decide) positive
    rw [one]
    exact ⟨x.powInt 1, rfl, product.le, fun zero => absurd zero product.ne',
      fun small => absurd small tiny⟩
  · have power := Decimal.coeff_exponential_pos (x.powerLog y)
    rw [none]
    exact ⟨_, rfl, power.le, fun zero => absurd zero power.ne', fun small => absurd small tiny⟩

/-- The square root of a half, and two powers so close to one that they are taken for zero. The base
of the second one is a difference, and has a digit more than the working precision. -/
theorem Number.pow?_fraction_half :
    let half := Decimal.ofScaled 5 (-1)
    let near := (Decimal.ofScaled (10 ^ 50 - 1) (-50)).sub (.ofScaled 4 (-51))
    let tiny := Decimal.ofScaled 1 (-258)
    (∃ z, (decimal half).pow? (.decimal half) = .ok (.decimal z) ∧ 0 < z.coeff) ∧
    (∃ z, (decimal half).pow? (.decimal (.ofScaled 1 (-300))) = .ok (.decimal z) ∧ z.coeff = 0) ∧
    ∃ z, (decimal near).pow? (.decimal tiny) = .ok (.decimal z) ∧ z.coeff = 0 ∧
      1 - 10 ^ (-257 : ℤ) < (near.toRat : ℝ) ^ (tiny.toRat : ℝ) := by
  intro half near tiny
  have below : half.toRat < 1 := by
    rw [Decimal.toRat_ofScaled]
    norm_num
  have digits : near = .ofScaled (10 ^ 51 - 14) (-51) := by decide +kernel
  have below' : near.toRat < 1 := by
    rw [digits, Decimal.toRat_ofScaled]
    norm_num
  have small {exp : ℤ} (place : exp ≤ 0) : (Decimal.ofScaled 1 exp).toRat ≤ 1 := by
    rw [Decimal.toRat_ofScaled, Int.cast_one, one_mul]
    exact zpow_le_one_of_nonpos₀ (by norm_num) place
  have kept : ¬ half.IsPowerTooSmall half := by decide +kernel
  obtain ⟨⟨root, computed, least, rooted⟩, -⟩ :=
    pow?_fraction (x := half) (y := half) (by decide) below (by decide) below.le
  obtain ⟨⟨first, computed', -, vanished⟩, taken, -⟩ :=
    pow?_fraction (y := .ofScaled 1 (-300)) (by decide) below (by decide) (small (by decide))
  obtain ⟨⟨second, computed'', -, vanished'⟩, taken', -⟩ :=
    pow?_fraction (y := tiny) (by decide +kernel) below' (by decide) (small (by decide))
  have nonzero : root.coeff ≠ 0 := fun zero => kept (rooted.mp zero)
  obtain ⟨lost, next⟩ := taken' (by decide +kernel)
  exact ⟨⟨root, computed, by omega⟩,
    ⟨first, computed', vanished.mpr (taken (by decide +kernel)).1⟩,
    second, computed'', vanished'.mpr lost, next⟩

/-- A power of a half that is next to one, and computed to be zero. -/
theorem Number.pow?_half_eq_zero :
    (decimal (.ofScaled 5 (-1))).pow? (.decimal (.ofScaled 1 (-300))) = .ok (.ofInt 0) := by
  decide +kernel

end Powers

end Spreadsheet
