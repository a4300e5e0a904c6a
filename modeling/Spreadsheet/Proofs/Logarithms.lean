import Mathlib.Analysis.SpecialFunctions.Log.Deriv
import Mathlib.Analysis.SpecificLimits.Basic
import Spreadsheet.Decimal.Logarithm
import Spreadsheet.Proofs.DecimalValues

/-!
# Logarithms of decimals

An enclosure of a logarithm contains it, at any number of places
(`Decimal.contains_encloseLog`). For quotients near one that is a matter of the series of the
inverse hyperbolic tangent: a sum of finitely many terms is compared with the whole series, term by
term, with the rounding of quotients going in the same direction as the comparison. The sums from
below and from above stay close, so an enclosure is narrow (`Decimal.width_encloseLog_le`).

A computed logarithm is the rounding of the lower end of some enclosure, and so is negative where the
real one is (`Decimal.coeff_log_neg`). Either it is the rounding of the upper end, too, or that of
the last and narrowest enclosure; in both cases it has fifty digits of the real logarithm
(`Decimal.abs_log_sub_le`).
-/

namespace Spreadsheet

/-! ## Intervals -/

/-- An enclosure contains a real number, in units of `10 ^ -places`. -/
structure Enclosure.Contains (places : ℕ) (x : Enclosure) (r : ℝ) : Prop where
  lower_le : (x.lower : ℝ) ≤ r * 10 ^ places
  le_upper : r * 10 ^ places ≤ x.upper

section Intervals

variable {places : ℕ} {x y : Enclosure} {r s : ℝ}

theorem Enclosure.Contains.add (inside : x.Contains places r) (inside' : y.Contains places s) :
    (x.add y).Contains places (r + s) where
  lower_le := by
    rw [Enclosure.add, Int.cast_add, add_mul]
    exact add_le_add inside.lower_le inside'.lower_le
  le_upper := by
    rw [Enclosure.add, Int.cast_add, add_mul]
    exact add_le_add inside.le_upper inside'.le_upper

theorem Enclosure.Contains.scale (inside : x.Contains places r) (k : ℤ) :
    (x.scale k).Contains places (k * r) := by
  by_cases upright : 0 ≤ k
  · have factor : (0 : ℝ) ≤ k := by exact_mod_cast upright
    rw [Enclosure.scale, if_pos upright]
    constructor
    · rw [Int.cast_mul, mul_assoc]
      exact mul_le_mul_of_nonneg_left inside.lower_le factor
    · rw [Int.cast_mul, mul_assoc]
      exact mul_le_mul_of_nonneg_left inside.le_upper factor
  · have factor : (k : ℝ) ≤ 0 := by exact_mod_cast (not_le.mp upright).le
    rw [Enclosure.scale, if_neg upright]
    constructor
    · rw [Int.cast_mul, mul_assoc]
      exact mul_le_mul_of_nonpos_left inside.le_upper factor
    · rw [Int.cast_mul, mul_assoc]
      exact mul_le_mul_of_nonpos_left inside.lower_le factor

end Intervals

/-! ## The series -/

/-- The series `1 / k + t ^ 2 / (k + 2) + t ^ 4 / (k + 4) + …`. -/
noncomputable def artanhFrom (t : ℝ) (k : ℕ) : ℝ :=
  tsum fun i : ℕ => t ^ (2 * i) / (k + 2 * i)

section Series

variable {t : ℝ} {k : ℕ}

theorem sq_le_ninth (nonneg : 0 ≤ t) (small : 3 * t ≤ 1) : t ^ 2 ≤ 1 / 9 := by
  nlinarith

theorem summable_artanhFrom (nonneg : 0 ≤ t) (small : 3 * t ≤ 1) (positive : 0 < k) :
    Summable fun i : ℕ => t ^ (2 * i) / ((k : ℝ) + 2 * i) := by
  have ratio := sq_le_ninth nonneg small
  refine Summable.of_nonneg_of_le (fun i => by positivity) (fun i => ?_)
    (summable_geometric_of_lt_one (sq_nonneg t) (by linarith))
  have denominator : (1 : ℝ) ≤ k + 2 * i := by
    have : (1 : ℝ) ≤ k := by exact_mod_cast positive
    have : (0 : ℝ) ≤ i := by positivity
    linarith
  rw [← pow_mul]
  exact div_le_self (by positivity) denominator

/-- One step of the series. -/
theorem artanhFrom_eq (nonneg : 0 ≤ t) (small : 3 * t ≤ 1) (positive : 0 < k) :
    artanhFrom t k = 1 / k + t ^ 2 * artanhFrom t (k + 2) := by
  have later : ∀ i : ℕ, t ^ (2 * (i + 1)) / ((k : ℝ) + 2 * (i + 1 : ℕ)) =
      t ^ 2 * (t ^ (2 * i) / ((k + 2 : ℕ) + 2 * i)) := by
    intro i
    rw [mul_add, pow_add, mul_one, mul_comm (t ^ (2 * i)), mul_div_assoc]
    push_cast
    ring_nf
  rw [artanhFrom, (summable_artanhFrom nonneg small positive).tsum_eq_zero_add, artanhFrom,
    ← tsum_mul_left, tsum_congr later]
  simp

theorem artanhFrom_nonneg (nonneg : 0 ≤ t) : 0 ≤ artanhFrom t k :=
  tsum_nonneg fun i => by positivity

theorem artanhFrom_le_one (nonneg : 0 ≤ t) (small : 3 * t ≤ 1) (later : 2 ≤ k) :
    artanhFrom t k ≤ 1 := by
  have ratio := sq_le_ninth nonneg small
  have geometric : Summable fun i : ℕ => (t ^ 2) ^ i :=
    summable_geometric_of_lt_one (sq_nonneg t) (by linarith)
  have first : (2 : ℝ) ≤ k := by exact_mod_cast later
  calc artanhFrom t k ≤ tsum fun i : ℕ => (t ^ 2) ^ i / 2 := by
        refine (summable_artanhFrom nonneg small (by omega)).tsum_le_tsum (fun i => ?_)
          (geometric.div_const 2)
        have : (0 : ℝ) ≤ i := by positivity
        rw [← pow_mul]
        exact div_le_div_of_nonneg_left (by positivity) two_pos (by linarith)
    _ = (1 - t ^ 2)⁻¹ / 2 := by
        rw [tsum_div_const, tsum_geometric_of_lt_one (sq_nonneg t) (by linarith)]
    _ ≤ 1 := by
        rw [div_le_one two_pos, inv_le_comm₀ (by linarith) two_pos]
        linarith

/-- The logarithm that the series stands for. -/
theorem log_eq_artanhFrom (nonneg : 0 ≤ t) (small : 3 * t ≤ 1) :
    Real.log ((1 + t) / (1 - t)) = 2 * (t * artanhFrom t 1) := by
  have inside : |t| < 1 := by rw [abs_of_nonneg nonneg]; linarith
  have terms : ∀ i : ℕ, (2 : ℝ) * (1 / (2 * i + 1)) * t ^ (2 * i + 1) =
      2 * (t * (t ^ (2 * i) / ((1 : ℕ) + 2 * i))) := by
    intro i
    rw [pow_succ, Nat.cast_one, add_comm (1 : ℝ)]
    ring
  rw [Real.log_div (by linarith) (by linarith),
    ← (Real.hasSum_log_sub_log_of_abs_lt_one inside).tsum_eq, tsum_congr terms, tsum_mul_left,
    tsum_mul_left, artanhFrom]

end Series

/-! ## Rounded sums -/

theorem le_divUp (num : ℕ) {den : ℕ} (positive : 0 < den) : (num : ℝ) / den ≤ divUp num den := by
  have unit : (0 : ℝ) < den := by exact_mod_cast positive
  have covered : num ≤ divUp num den * den := by
    have := Nat.div_add_mod (num + den - 1) den
    have := Nat.mod_lt (num + den - 1) positive
    rw [divUp, Nat.mul_comm]
    omega
  rw [div_le_iff₀ unit]
  exact_mod_cast covered

section Sums

variable {num den k : ℕ}

theorem three_mul_ratio_le (positive : 0 < den) (small : 3 * num ≤ den) :
    3 * ((num : ℝ) / den) ≤ 1 := by
  have unit : (0 : ℝ) < den := by exact_mod_cast positive
  rw [← mul_div_assoc, div_le_one unit]
  exact_mod_cast small

/-- Rounded down, finitely many terms stay below the series. -/
theorem artanhSum_le (positive : 0 < den) (small : 3 * num ≤ den) (terms power : ℕ) (first : 0 < k) :
    (artanhSum (· / ·) (fun _ => 0) num den terms power k : ℝ) ≤
      power * artanhFrom (num / den) k := by
  have nonneg : 0 ≤ (num : ℝ) / den := by positivity
  induction terms generalizing power k with
  | zero =>
    rw [artanhSum, Nat.cast_zero]
    exact mul_nonneg (Nat.cast_nonneg _) (artanhFrom_nonneg nonneg)
  | succ terms ih =>
    rw [artanhSum, artanhFrom_eq nonneg (three_mul_ratio_le positive small) first, Nat.cast_add]
    have rest := artanhFrom_nonneg (k := k + 2) nonneg
    have next_power : ((power * num * num / (den * den) : ℕ) : ℝ) ≤ power * (num / den) ^ 2 := by
      refine Nat.cast_div_le.trans_eq ?_
      push_cast
      ring
    calc ((power / k : ℕ) : ℝ) + artanhSum (· / ·) (fun _ => 0) num den terms
            (power * num * num / (den * den)) (k + 2)
        ≤ power / k + power * (num / den) ^ 2 * artanhFrom (num / den) (k + 2) := by
          refine add_le_add Nat.cast_div_le ((ih _ (by omega)).trans ?_)
          exact mul_le_mul_of_nonneg_right next_power rest
      _ = power * (1 / k + (num / den) ^ 2 * artanhFrom (num / den) (k + 2)) := by ring

/-- Rounded up, and with the next power in place of the terms left out, they reach the series. -/
theorem le_artanhSum (positive : 0 < den) (small : 3 * num ≤ den) (terms power : ℕ) (first : 0 < k)
    (enough : 2 ≤ k + terms) :
    power * artanhFrom (num / den) k ≤ artanhSum divUp id num den terms power k := by
  have nonneg : 0 ≤ (num : ℝ) / den := by positivity
  have ratio := three_mul_ratio_le positive small
  induction terms generalizing power k with
  | zero =>
    rw [artanhSum, id]
    exact mul_le_of_le_one_right (Nat.cast_nonneg _) (artanhFrom_le_one nonneg ratio enough)
  | succ terms ih =>
    rw [artanhSum, artanhFrom_eq nonneg ratio first, Nat.cast_add]
    have rest := artanhFrom_nonneg (k := k + 2) nonneg
    have next_power : power * (num / den : ℝ) ^ 2 ≤ divUp (power * num * num) (den * den) := by
      refine le_of_eq_of_le ?_ (le_divUp _ (Nat.mul_pos positive positive))
      push_cast
      ring
    calc power * (1 / k + (num / den) ^ 2 * artanhFrom (num / den) (k + 2))
        = power / k + power * (num / den) ^ 2 * artanhFrom (num / den) (k + 2) := by ring
      _ ≤ (divUp power k : ℝ) + artanhSum divUp id num den terms
            (divUp (power * num * num) (den * den)) (k + 2) := by
          refine add_le_add (le_divUp _ first) (le_trans ?_ (ih _ (by omega) (by omega)))
          exact mul_le_mul_of_nonneg_right next_power rest

end Sums

/-! ## Enclosures of logarithms -/

section Logarithms

variable {num den : ℕ} {x : Decimal}

theorem Enclosure.contains_logRatio (places : ℕ) (positive : 0 < den) (small : 3 * num ≤ den) :
    (logRatio places num den).Contains places (Real.log ((den + num) / (den - num))) := by
  have unit : (0 : ℝ) < den := by exact_mod_cast positive
  have nonneg : 0 ≤ (num : ℝ) / den := by positivity
  have quotient : ((den : ℝ) + num) / (den - num) = (1 + num / den) / (1 - num / den) := by
    rw [one_add_div unit.ne', one_sub_div unit.ne', div_div_div_cancel_right₀ unit.ne']
  have series := artanhFrom_nonneg (k := 1) nonneg
  rw [quotient, log_eq_artanhFrom nonneg (three_mul_ratio_le positive small)]
  constructor
  · have power : ((10 ^ places * num / den : ℕ) : ℝ) ≤ num / den * 10 ^ places := by
      refine Nat.cast_div_le.trans_eq ?_
      push_cast
      ring
    have sum := artanhSum_le (k := 1) positive small (places + places / 10 + 2)
      (10 ^ places * num / den) one_pos
    rw [logRatio]
    push_cast
    have := mul_le_mul_of_nonneg_right power series
    linarith
  · have power : (num : ℝ) / den * 10 ^ places ≤ divUp (10 ^ places * num) den := by
      refine le_of_eq_of_le ?_ (le_divUp _ positive)
      push_cast
      ring
    have sum := le_artanhSum (k := 1) positive small (places + places / 10 + 2)
      (divUp (10 ^ places * num) den) one_pos (by omega)
    rw [logRatio]
    push_cast
    have := mul_le_mul_of_nonneg_right power series
    linarith

theorem Enclosure.contains_logTwo (places : ℕ) : (logTwo places).Contains places (Real.log 2) := by
  have ratio : (logRatio places 1 3).Contains places
      (Real.log (((3 : ℕ) + (1 : ℕ)) / ((3 : ℕ) - (1 : ℕ)))) :=
    contains_logRatio places (by decide) (by decide)
  norm_num at ratio
  exact ratio

theorem Enclosure.contains_logTen (places : ℕ) : (logTen places).Contains places (Real.log 10) := by
  have ratio : (logRatio places 1 9).Contains places
      (Real.log (((9 : ℕ) + (1 : ℕ)) / ((9 : ℕ) - (1 : ℕ)))) :=
    contains_logRatio places (by decide) (by decide)
  have product : Real.log 10 =
      (3 : ℤ) * Real.log 2 + Real.log (((9 : ℕ) + (1 : ℕ)) / ((9 : ℕ) - (1 : ℕ))) := by
    rw [← Real.log_zpow, ← Real.log_mul (by norm_num) (by norm_num)]
    norm_num
  rw [product]
  exact ((contains_logTwo places).scale 3).add ratio

/-- Encloses the logarithm of `near / one`, a quotient between a half and two. -/
def Enclosure.logNear (places near one : ℕ) : Enclosure :=
  (logRatio places (if one ≤ near then near - one else one - near) (near + one)).scale
    (if one ≤ near then 1 else -1)

theorem Enclosure.contains_logNear (places : ℕ) {near one : ℕ} (positive : 0 < one)
    (low : one ≤ 2 * near) (high : near ≤ 2 * one) :
    (logNear places near one).Contains places (Real.log (near / one)) := by
  rw [logNear]
  by_cases above : one ≤ near
  · have ratio : (logRatio places (near - one) (near + one)).Contains places _ :=
      contains_logRatio places (by omega) (by omega)
    have numerator : ((near + one : ℕ) : ℝ) + (near - one : ℕ) = 2 * near := by
      push_cast [Nat.cast_sub above]
      ring
    have denominator : ((near + one : ℕ) : ℝ) - (near - one : ℕ) = 2 * one := by
      push_cast [Nat.cast_sub above]
      ring
    rw [numerator, denominator, mul_div_mul_left _ _ two_ne_zero] at ratio
    rw [if_pos above, if_pos above]
    simpa using ratio.scale 1
  · have below := (not_le.mp above).le
    have ratio : (logRatio places (one - near) (near + one)).Contains places _ :=
      contains_logRatio places (by omega) (by omega)
    have numerator : ((near + one : ℕ) : ℝ) + (one - near : ℕ) = 2 * one := by
      push_cast [Nat.cast_sub below]
      ring
    have denominator : ((near + one : ℕ) : ℝ) - (one - near : ℕ) = 2 * near := by
      push_cast [Nat.cast_sub below]
      ring
    rw [numerator, denominator, mul_div_mul_left _ _ two_ne_zero, ← inv_div, Real.log_inv] at ratio
    rw [if_neg above, if_neg above]
    simpa using ratio.scale (-1)

/-- The order of magnitude of a decimal: the power of ten that it is just below. -/
def Decimal.order (x : Decimal) : ℤ :=
  x.exp + digitCount x.coeff.natAbs

/-- The magnitude of a decimal is brought next to one by powers of two and ten. -/
theorem Decimal.exists_encloseLog_eq (nonzero : x.coeff ≠ 0) :
    ∃ twos : ℕ, twos ≤ 3 ∧ 10 ^ digitCount x.coeff.natAbs ≤ 2 * (x.coeff.natAbs * 2 ^ twos) ∧
      x.coeff.natAbs * 2 ^ twos ≤ 2 * 10 ^ digitCount x.coeff.natAbs ∧
      ∀ places, x.encloseLog places =
        ((Enclosure.logNear places (x.coeff.natAbs * 2 ^ twos) (10 ^ digitCount x.coeff.natAbs)).add
          ((Enclosure.logTwo places).scale (-twos))).add
            ((Enclosure.logTen places).scale x.order) := by
  have below := lt_pow_digitCount x.coeff.natAbs
  have above := pow_digitCount_le (Int.natAbs_ne_zero.mpr nonzero)
  refine ⟨if 2 * 10 ^ digitCount x.coeff.natAbs ≤ 3 * x.coeff.natAbs then 0
    else if 10 ^ digitCount x.coeff.natAbs ≤ 3 * x.coeff.natAbs then 1
    else if 10 ^ digitCount x.coeff.natAbs ≤ 6 * x.coeff.natAbs then 2
    else 3, ?_, ?_, ?_, fun _ => rfl⟩
  all_goals
    generalize 10 ^ digitCount x.coeff.natAbs = one at below above ⊢
    generalize x.coeff.natAbs = coeff at below above ⊢
    split
    · omega
    split
    · omega
    split <;> omega

theorem Decimal.cast_toRat (positive : 0 < x.coeff) :
    (x.toRat : ℝ) = x.coeff.natAbs * 10 ^ x.exp := by
  have magnitude := x.abs_toRat
  rw [abs_of_pos (toRat_pos.mpr positive)] at magnitude
  rw [magnitude]
  push_cast
  rfl

/-- Encloses the logarithm of a positive decimal. -/
theorem Decimal.contains_encloseLog (positive : 0 < x.coeff) (places : ℕ) :
    (x.encloseLog places).Contains places (Real.log x.toRat) := by
  have magnitude : (x.coeff.natAbs : ℝ) ≠ 0 := by
    exact_mod_cast Int.natAbs_ne_zero.mpr positive.ne'
  obtain ⟨twos, -, low, high, reduced⟩ := exists_encloseLog_eq positive.ne'
  have sum : Real.log x.toRat =
      Real.log ((x.coeff.natAbs * 2 ^ twos : ℕ) / (10 ^ digitCount x.coeff.natAbs : ℕ)) +
        (-twos : ℤ) * Real.log 2 + x.order * Real.log 10 := by
    rw [cast_toRat positive, order, Nat.cast_mul, Nat.cast_pow, Nat.cast_pow, Nat.cast_ofNat, Nat.cast_ofNat,
      Real.log_div (by positivity) (by positivity), Real.log_mul magnitude (by positivity),
      Real.log_mul magnitude (by positivity), Real.log_zpow, Real.log_pow, Real.log_pow]
    push_cast
    ring
  rw [sum, reduced]
  exact ((Enclosure.contains_logNear places (by positivity) low high).add
    ((Enclosure.contains_logTwo places).scale _)).add ((Enclosure.contains_logTen places).scale _)

theorem Enclosure.eq_of_rounded? {x : Enclosure} {exp : ℤ} {rounded : Decimal}
    (agree : x.rounded? exp = some rounded) :
    rounded = (Decimal.ofScaled x.lower exp).round ∧
      rounded = (Decimal.ofScaled x.upper exp).round := by
  rw [rounded?] at agree
  split at agree
  next same =>
    cases agree
    exact ⟨rfl, same⟩
  next => cases agree

/-- What is settled on is the lower end of some enclosure, rounded. So is the upper end, unless no
attempt is left. -/
theorem Decimal.settle_cases (approximate : ℕ → ℤ × Enclosure) (attempts places : ℕ) :
    ∃ p, settle approximate attempts places =
        (ofScaled (approximate p).2.lower ((approximate p).1 - p)).round ∧
      (settle approximate attempts places =
        (ofScaled (approximate p).2.upper ((approximate p).1 - p)).round ∨
          p = 2 ^ attempts * places) := by
  induction attempts generalizing places with
  | zero => exact ⟨places, by rw [settle], .inr (Nat.one_mul _).symm⟩
  | succ attempts ih =>
    have attempt : settle approximate (attempts + 1) places =
        ((approximate places).2.rounded? ((approximate places).1 - places)).getD
          (settle approximate attempts (2 * places)) := by
      rw [settle]
    cases agree : (approximate places).2.rounded? ((approximate places).1 - places) with
    | none =>
      rw [agree, Option.getD_none] at attempt
      rw [attempt, pow_succ, Nat.mul_assoc]
      exact ih (2 * places)
    | some rounded =>
      rw [agree, Option.getD_some] at attempt
      obtain ⟨lower, upper⟩ := Enclosure.eq_of_rounded? agree
      exact ⟨places, attempt.trans lower, .inl (attempt.trans upper)⟩

/-- A computed logarithm is settled on in this way, unless it is that of one. -/
theorem Decimal.log_cases (different : x ≠ ofInt 1) :
    ∃ places : ℕ, x.log = (ofScaled (x.encloseLog places).lower (0 - places)).round ∧
      (x.log = (ofScaled (x.encloseLog places).upper (0 - places)).round ∨
        places = 2 ^ 8 * (90 + digitCount x.coeff.natAbs)) := by
  rw [log, if_neg different]
  exact settle_cases (fun places => (0, x.encloseLog places)) 8 (90 + digitCount x.coeff.natAbs)

/-- The logarithm of a decimal below one is negative. -/
theorem Decimal.coeff_log_neg (positive : 0 < x.coeff) (below : x.toRat < 1) : x.log.coeff < 0 := by
  have different : x ≠ ofInt 1 := by
    rintro rfl
    rw [toRat_ofInt, Int.cast_one] at below
    exact lt_irrefl _ below
  obtain ⟨places, settled, -⟩ := log_cases different
  have negative : Real.log x.toRat < 0 :=
    Real.log_neg (by exact_mod_cast toRat_pos.mpr positive) (by exact_mod_cast below)
  have lower : ((x.encloseLog places).lower : ℝ) < 0 :=
    (contains_encloseLog positive places).lower_le.trans_lt
      (mul_neg_of_neg_of_pos negative (by positivity))
  have lower' : (x.encloseLog places).lower < 0 := by exact_mod_cast lower
  rw [settled]
  exact coeff_roundTo_neg (by decide) (coeff_ofScaled_neg lower')

end Logarithms

/-! ## Widths -/

def Enclosure.width (x : Enclosure) : ℤ :=
  x.upper - x.lower

section Widths

variable {num den k : ℕ} {x : Enclosure}

theorem Enclosure.width_add (x y : Enclosure) : (x.add y).width = x.width + y.width := by
  simp only [width, add]
  ring

theorem Enclosure.width_scale (k : ℤ) (x : Enclosure) : (x.scale k).width = |k| * x.width := by
  rw [scale]
  split
  next upright =>
    rw [abs_of_nonneg upright, width, width]
    ring
  next downward =>
    rw [abs_of_neg (not_le.mp downward), width, width]
    ring

theorem divUp_le (num : ℕ) {den : ℕ} (positive : 0 < den) : (divUp num den : ℝ) ≤ num / den + 1 := by
  have unit : (0 : ℝ) < den := by exact_mod_cast positive
  have covered : divUp num den * den ≤ num + den := by
    have := Nat.div_mul_le_self (num + den - 1) den
    rw [divUp]
    omega
  rw [div_add_one unit.ne', le_div_iff₀ unit]
  exact_mod_cast covered

theorem divUp_le_div_add {a b c m : ℕ} (positive : 0 < m) (close : a ≤ b + c * m) :
    divUp a m ≤ b / m + c + 1 := by
  have bound : a + m - 1 ≤ b + (c + 1) * m := by
    rw [Nat.add_mul, Nat.one_mul]
    omega
  calc divUp a m ≤ (b + (c + 1) * m) / m := Nat.div_le_div_right bound
    _ = b / m + c + 1 := Nat.add_mul_div_right _ _ positive

/-- Rounded up and down from powers that are close, the terms of the series stay close, and the
power that stands for the terms left out shrinks. -/
theorem artanhSum_divUp_le (positive : 0 < den) (small : 3 * num ≤ den)
    (terms low high : ℕ) (first : 0 < k) (close : high ≤ low + 3) :
    (artanhSum divUp id num den terms high k : ℝ) ≤
      artanhSum (· / ·) (fun _ => 0) num den terms low k + 5 * terms + high / 9 ^ terms := by
  have square : 9 * (num * num) ≤ den * den := by nlinarith
  have positive' : 0 < den * den := Nat.mul_pos positive positive
  induction terms generalizing low high k with
  | zero => simp [artanhSum]
  | succ terms ih =>
    have term : divUp high k ≤ low / k + 3 + 1 := divUp_le_div_add first (by omega)
    have next_close : divUp (high * num * num) (den * den) ≤
        low * num * num / (den * den) + 1 + 1 := by
      apply divUp_le_div_add positive'
      calc high * num * num ≤ (low + 3) * num * num := by gcongr
        _ = low * num * num + 3 * (num * num) := by ring
        _ ≤ low * num * num + 1 * (den * den) := by omega
    have next_high : (divUp (high * num * num) (den * den) : ℝ) ≤ high / 9 + 1 := by
      have unit : (0 : ℝ) < (den * den : ℕ) := by exact_mod_cast positive'
      have ratio : ((high * num * num : ℕ) : ℝ) / (den * den : ℕ) ≤ high / 9 := by
        rw [div_le_div_iff₀ unit (by norm_num)]
        have : high * num * num * 9 ≤ high * (den * den) := by
          calc high * num * num * 9 = high * (9 * (num * num)) := by ring
            _ ≤ high * (den * den) := Nat.mul_le_mul_left _ square
        exact_mod_cast this
      linarith [divUp_le (high * num * num) positive']
    have shrunk : (divUp (high * num * num) (den * den) : ℝ) / 9 ^ terms ≤
        high / 9 ^ (terms + 1) + 1 := by
      have one : (1 : ℝ) ≤ 9 ^ terms := one_le_pow₀ (by norm_num)
      calc (divUp (high * num * num) (den * den) : ℝ) / 9 ^ terms ≤ (high / 9 + 1) / 9 ^ terms := by
            gcongr
        _ = high / 9 ^ (terms + 1) + 1 / 9 ^ terms := by
            rw [add_div, div_div, pow_succ']
        _ ≤ high / 9 ^ (terms + 1) + 1 := by
            gcongr
            exact div_le_one_of_le₀ one (by positivity)
    have term' : (divUp high k : ℝ) ≤ (low / k : ℕ) + 3 + 1 := by exact_mod_cast term
    have rest := ih (low * num * num / (den * den)) (divUp (high * num * num) (den * den))
      (k := k + 2) (by omega) (by omega)
    rw [artanhSum, artanhSum]
    push_cast at rest ⊢
    linarith

/-- Powers of nine with a tenth more factors, and two, are not behind powers of ten. -/
theorem ten_pow_le (places : ℕ) : 10 ^ places ≤ 9 ^ (places + places / 10 + 2) := by
  have digit : ∀ ones < 10, 10 ^ ones ≤ 9 ^ (ones + 2) := by decide
  have parts := Nat.div_add_mod places 10
  have rest : places % 10 < 10 := Nat.mod_lt _ (by decide)
  generalize places / 10 = tens at parts
  generalize places % 10 = ones at parts rest
  subst parts
  calc 10 ^ (10 * tens + ones) = (10 ^ 10) ^ tens * 10 ^ ones := by rw [pow_add, pow_mul]
    _ ≤ (9 ^ 11) ^ tens * 9 ^ (ones + 2) :=
      Nat.mul_le_mul (Nat.pow_le_pow_left (by norm_num) _) (digit ones rest)
    _ = 9 ^ (10 * tens + ones + tens + 2) := by
      rw [← pow_mul, ← pow_add]
      congr 1
      ring

theorem Enclosure.width_logRatio_le (places : ℕ) (positive : 0 < den) (small : 3 * num ≤ den) :
    (logRatio places num den).width ≤ 11 * places + 28 := by
  have close : divUp (10 ^ places * num) den ≤ 10 ^ places * num / den + 0 + 1 :=
    divUp_le_div_add (c := 0) positive (by omega)
  have sums := artanhSum_divUp_le (k := 1) positive small (places + places / 10 + 2)
    (10 ^ places * num / den) (divUp (10 ^ places * num) den) one_pos (by omega)
  have few : (divUp (10 ^ places * num) den : ℝ) / 9 ^ (places + places / 10 + 2) ≤ 2 := by
    have power : (10 ^ places : ℝ) ≤ 9 ^ (places + places / 10 + 2) := by
      exact_mod_cast ten_pow_le places
    have below : divUp (10 ^ places * num) den ≤ 2 * 10 ^ places := by
      have : 10 ^ places * num / den ≤ 10 ^ places :=
        Nat.div_le_of_le_mul (by
          rw [Nat.mul_comm den]
          exact Nat.mul_le_mul_left _ (by omega))
      have : 0 < 10 ^ places := by positivity
      omega
    have below' : (divUp (10 ^ places * num) den : ℝ) ≤ 2 * 10 ^ places := by exact_mod_cast below
    rw [div_le_iff₀ (by positivity)]
    linarith
  have terms : (10 : ℝ) * (places + places / 10 + 2 : ℕ) ≤ 11 * places + 20 := by
    exact_mod_cast (by omega : 10 * (places + places / 10 + 2) ≤ 11 * places + 20)
  have bound : ((logRatio places num den).width : ℝ) ≤ 11 * places + 28 := by
    rw [width, logRatio]
    push_cast at terms sums ⊢
    linarith
  exact_mod_cast bound

/-- The width of an enclosure of a logarithm, by the order of magnitude of the argument. -/
theorem Decimal.width_encloseLog_le {x : Decimal} (nonzero : x.coeff ≠ 0) (places : ℕ) :
    (x.encloseLog places).width ≤ 4 * (1 + |x.order|) * (11 * places + 28) := by
  obtain ⟨twos, few, low, high, reduced⟩ := exists_encloseLog_eq nonzero
  have positive : 0 < 10 ^ digitCount x.coeff.natAbs := by positivity
  generalize 10 ^ digitCount x.coeff.natAbs = one at positive low high reduced
  generalize x.coeff.natAbs * 2 ^ twos = near at low high reduced
  have near_width : (Enclosure.logNear places near one).width ≤ 11 * places + 28 := by
    have sign : |if one ≤ near then (1 : ℤ) else -1| = 1 := by split <;> rfl
    rw [Enclosure.logNear, Enclosure.width_scale, sign, one_mul]
    exact Enclosure.width_logRatio_le places (by omega) (by split <;> omega)
  have two_width : (Enclosure.logTwo places).width ≤ 11 * places + 28 :=
    Enclosure.width_logRatio_le places (by decide) (by decide)
  have ten_width : (Enclosure.logTen places).width ≤ 4 * (11 * places + 28) := by
    have ratio : (Enclosure.logRatio places 1 9).width ≤ 11 * places + 28 :=
      Enclosure.width_logRatio_le places (by decide) (by decide)
    rw [Enclosure.logTen, Enclosure.width_add, Enclosure.width_scale]
    have three : |(3 : ℤ)| = 3 := rfl
    rw [three]
    linarith
  have few' : (twos : ℤ) ≤ 3 := by exact_mod_cast few
  rw [reduced, Enclosure.width_add, Enclosure.width_add, Enclosure.width_scale,
    Enclosure.width_scale, abs_neg, Nat.abs_cast]
  calc (Enclosure.logNear places near one).width + twos * (Enclosure.logTwo places).width +
        |x.order| * (Enclosure.logTen places).width
      ≤ (11 * places + 28) + twos * (11 * places + 28) +
          |x.order| * (4 * (11 * places + 28)) := by gcongr
    _ ≤ (11 * places + 28) + 3 * (11 * places + 28) +
          |x.order| * (4 * (11 * places + 28)) := by gcongr
    _ = 4 * (1 + |x.order|) * (11 * places + 28) := by ring

end Widths

/-! ## Precision -/

theorem two_le_log_ten : (2 : ℝ) ≤ Real.log 10 := by
  have lower := (Enclosure.contains_logTen 2).lower_le
  have digits : (200 : ℤ) ≤ (Enclosure.logTen 2).lower := by decide +kernel
  have digits' : (200 : ℝ) ≤ (Enclosure.logTen 2).lower := by exact_mod_cast digits
  linarith

section Precision

variable {x : Decimal}

theorem Decimal.order_spec (positive : 0 < x.coeff) :
    (10 : ℝ) ^ (x.order - 1) ≤ x.toRat ∧ (x.toRat : ℝ) < 10 ^ x.order := by
  have unit : (0 : ℝ) < 10 ^ x.exp := by positivity
  have below : (x.coeff.natAbs : ℝ) < 10 ^ digitCount x.coeff.natAbs := by
    exact_mod_cast lt_pow_digitCount x.coeff.natAbs
  have above : (10 : ℝ) ^ digitCount x.coeff.natAbs ≤ 10 * x.coeff.natAbs := by
    exact_mod_cast pow_digitCount_le (Int.natAbs_ne_zero.mpr positive.ne')
  rw [cast_toRat positive, order, zpow_sub_one₀ (by norm_num), zpow_add₀ (by norm_num), zpow_natCast]
  constructor
  · calc (10 : ℝ) ^ x.exp * 10 ^ digitCount x.coeff.natAbs * 10⁻¹
        ≤ 10 ^ x.exp * (10 * x.coeff.natAbs) * 10⁻¹ := by gcongr
      _ = x.coeff.natAbs * 10 ^ x.exp := by ring
  · calc (x.coeff.natAbs : ℝ) * 10 ^ x.exp < 10 ^ digitCount x.coeff.natAbs * 10 ^ x.exp := by
          gcongr
      _ = 10 ^ x.exp * 10 ^ digitCount x.coeff.natAbs := by ring

/-- A decimal of few digits that is not one is not next to one, either. -/
theorem Decimal.le_abs_toRat_sub_one (different : x ≠ ofInt 1)
    (fraction : x.exp ≤ 0) : (10 : ℚ) ^ x.exp ≤ |x.toRat - 1| := by
  have unit : (0 : ℚ) < 10 ^ x.exp := by positivity
  have one : (1 : ℚ) = ((10 ^ (-x.exp).toNat : ℤ) : ℚ) * 10 ^ x.exp := by
    push_cast
    rw [← zpow_natCast, Int.toNat_of_nonneg (by omega), zpow_neg, inv_mul_cancel₀ unit.ne']
  have apart : x.coeff - 10 ^ (-x.exp).toNat ≠ 0 := by
    intro same
    apply different
    apply toRat_injective
    rw [toRat_ofInt, Int.cast_one, toRat, sub_eq_zero.mp same]
    exact one.symm
  have difference : x.toRat - 1 = ((x.coeff - 10 ^ (-x.exp).toNat : ℤ) : ℚ) * 10 ^ x.exp := by
    rw [Int.cast_sub, sub_mul, ← one]
    rfl
  rw [difference, abs_mul, abs_of_pos unit]
  have least : (1 : ℚ) ≤ |((x.coeff - 10 ^ (-x.exp).toNat : ℤ) : ℚ)| := by
    exact_mod_cast Int.one_le_abs apart
  exact le_mul_of_one_le_left unit.le least

/-- Far from one, a logarithm is at least the order of magnitude. -/
theorem Decimal.abs_order_le_abs_log (positive : 0 < x.coeff) (far : x.order ≤ -1 ∨ 2 ≤ x.order) :
    |(x.order : ℝ)| ≤ |Real.log x.toRat| := by
  obtain ⟨least, most⟩ := order_spec positive
  have value : (0 : ℝ) < x.toRat := by exact_mod_cast toRat_pos.mpr positive
  have ten := two_le_log_ten
  rcases far with tiny | huge
  · have order : (x.order : ℝ) ≤ -1 := by exact_mod_cast tiny
    have log : Real.log x.toRat ≤ x.order * Real.log 10 := by
      rw [← Real.log_zpow]
      exact Real.log_le_log value most.le
    have scaled : (x.order : ℝ) * Real.log 10 ≤ x.order * 2 :=
      mul_le_mul_of_nonpos_left ten (by linarith)
    rw [abs_of_nonpos (by linarith), abs_of_nonpos (by linarith)]
    linarith
  · have order : (2 : ℝ) ≤ x.order := by exact_mod_cast huge
    have log : ((x.order - 1 : ℤ) : ℝ) * Real.log 10 ≤ Real.log x.toRat := by
      rw [← Real.log_zpow]
      exact Real.log_le_log (by positivity) least
    push_cast at log
    have scaled : ((x.order : ℝ) - 1) * 2 ≤ (x.order - 1) * Real.log 10 :=
      mul_le_mul_of_nonneg_left ten (by linarith)
    rw [abs_of_nonneg (by linarith), abs_of_nonneg (by linarith)]
    linarith

/-- A logarithm is not small by the distance to one. -/
theorem abs_sub_one_le_abs_log {r : ℝ} (positive : 0 < r) :
    |r - 1| ≤ max r 1 * |Real.log r| := by
  rcases le_total r 1 with below | above
  · have log := Real.log_le_sub_one_of_pos positive
    rw [max_eq_right below, one_mul, abs_of_nonpos (by linarith), abs_of_nonpos (by linarith)]
    linarith
  · have log := mul_le_mul_of_nonneg_left (Real.one_sub_inv_le_log_of_pos positive) positive.le
    rw [mul_sub, mul_one, mul_inv_cancel₀ positive.ne'] at log
    rwa [max_eq_left above, abs_of_nonneg (by linarith), abs_of_nonneg (Real.log_nonneg above)]

/-- Near one, where the logarithm vanishes, it is not below the last digit. -/
theorem Decimal.one_le_abs_log (positive : 0 < x.coeff) (different : x ≠ ofInt 1)
    (near : x.order = 0 ∨ x.order = 1) :
    1 ≤ 10 ^ digitCount x.coeff.natAbs * |Real.log x.toRat| := by
  have value : (0 : ℝ) < x.toRat := by exact_mod_cast toRat_pos.mpr positive
  have some_digit := digitCount_pos x.coeff.natAbs
  have place : x.exp = x.order - digitCount x.coeff.natAbs := by rw [order]; ring
  have apart := (Rat.cast_le (K := ℝ)).mpr (le_abs_toRat_sub_one different (by omega))
  push_cast at apart
  have most : max (x.toRat : ℝ) 1 ≤ 10 ^ x.order :=
    max_le (order_spec positive).2.le (one_le_zpow₀ (by norm_num) (by omega))
  have scale : (0 : ℝ) < 10 ^ x.order := by positivity
  have shifted : (10 : ℝ) ^ x.order ≤
      10 ^ x.order * (10 ^ digitCount x.coeff.natAbs * |Real.log x.toRat|) :=
    calc (10 : ℝ) ^ x.order = 10 ^ digitCount x.coeff.natAbs * 10 ^ x.exp := by
          rw [order, add_comm, zpow_add₀ (by norm_num), zpow_natCast]
      _ ≤ 10 ^ digitCount x.coeff.natAbs * (10 ^ x.order * |Real.log x.toRat|) := by
        gcongr
        exact apart.trans ((abs_sub_one_le_abs_log value).trans (by gcongr))
      _ = 10 ^ x.order * (10 ^ digitCount x.coeff.natAbs * |Real.log x.toRat|) := by ring
  exact le_of_mul_le_mul_left (by rwa [mul_one]) scale

/-- The logarithm of a decimal is not small by its order of magnitude, as far as its digits reach. -/
theorem Decimal.order_le_abs_log (positive : 0 < x.coeff) (different : x ≠ ofInt 1) :
    1 + |(x.order : ℝ)| ≤ 2 * 10 ^ digitCount x.coeff.natAbs * |Real.log x.toRat| := by
  obtain near | far : (x.order = 0 ∨ x.order = 1) ∨ (x.order ≤ -1 ∨ 2 ≤ x.order) := by omega
  · have log := one_le_abs_log positive different near
    have order : |(x.order : ℝ)| ≤ 1 := by
      rcases near with same | same <;> simp [same]
    linarith
  · have log := abs_order_le_abs_log positive far
    have order : (1 : ℝ) ≤ |(x.order : ℝ)| := by
      have nonzero : x.order ≠ 0 := by omega
      exact_mod_cast Int.one_le_abs nonzero
    have large : |Real.log x.toRat| ≤ 10 ^ digitCount x.coeff.natAbs * |Real.log x.toRat| :=
      le_mul_of_one_le_left (abs_nonneg _) (one_le_pow₀ (by norm_num))
    linarith

/-- The values of the ends of an enclosure. -/
theorem Enclosure.Contains.between {e : Enclosure} {places : ℕ} {r : ℝ}
    (inside : e.Contains places r) :
    let low : ℝ := (Decimal.ofScaled e.lower (0 - places)).toRat
    let high : ℝ := (Decimal.ofScaled e.upper (0 - places)).toRat
    low ≤ r ∧ r ≤ high ∧ (r - low) * 10 ^ places ≤ e.width := by
  have unit : (0 : ℝ) < 10 ^ places := by positivity
  have value (n : ℤ) : ((Decimal.ofScaled n (0 - places)).toRat : ℝ) = n / 10 ^ places := by
    rw [Decimal.toRat_ofScaled, zero_sub, zpow_neg, zpow_natCast, ← div_eq_mul_inv]
    push_cast
    rfl
  intro low high
  simp only [low, high, value]
  refine ⟨(div_le_iff₀ unit).mpr inside.lower_le, (le_div_iff₀ unit).mpr inside.le_upper, ?_⟩
  rw [sub_mul, div_mul_cancel₀ _ unit.ne', Enclosure.width, Int.cast_sub]
  linarith [inside.le_upper]

theorem Decimal.abs_cast_round_sub_le (x : Decimal) :
    2 * 10 ^ 49 * |(x.round.toRat : ℝ) - x.toRat| ≤ |(x.round.toRat : ℝ)| := by
  have rounded := (Rat.cast_le (K := ℝ)).mpr x.abs_toRat_round_sub_le
  push_cast at rounded
  exact rounded

/-- The last attempt at a logarithm leaves an enclosure that is narrow next to it. -/
theorem Decimal.width_encloseLog_last (positive : 0 < x.coeff) (different : x ≠ ofInt 1)
    {places : ℕ} (last : places = 2 ^ 8 * (90 + digitCount x.coeff.natAbs)) :
    10 ^ 100 * ((x.encloseLog places).width : ℝ) ≤ |Real.log x.toRat| * 10 ^ places := by
  have magnitude := order_le_abs_log positive different
  have bound : ((x.encloseLog places).width : ℝ) ≤
      4 * (1 + |(x.order : ℝ)|) * (11 * places + 28) := by
    exact_mod_cast width_encloseLog_le positive.ne' places
  generalize digitCount x.coeff.natAbs = digits at last magnitude
  have factor : 8 * (11 * (places : ℝ) + 28) ≤ 10 ^ (7 + digits) := by
    -- The number of places grows with the digits, and less than their power of ten.
    have grows : digits < 10 ^ digits := Nat.lt_pow_self (by decide)
    have scaled : 8 * (11 * places + 28) ≤ 10 ^ 7 * 10 ^ digits := by omega
    rw [pow_add]
    exact_mod_cast scaled
  have room : (10 : ℝ) ^ (107 + 2 * digits) ≤ 10 ^ places :=
    pow_le_pow_right₀ (by norm_num) (by omega)
  have log := abs_nonneg (Real.log x.toRat)
  calc 10 ^ 100 * ((x.encloseLog places).width : ℝ)
      ≤ 10 ^ 100 * (4 * (2 * 10 ^ digits * |Real.log x.toRat|) * (11 * places + 28)) := by
        gcongr
        exact bound.trans (by gcongr)
    _ = |Real.log x.toRat| * (10 ^ (100 + digits) * (8 * (11 * places + 28))) := by ring
    _ ≤ |Real.log x.toRat| * (10 ^ (100 + digits) * 10 ^ (7 + digits)) := by gcongr
    _ = |Real.log x.toRat| * 10 ^ (107 + 2 * digits) := by
        rw [← pow_add]
        congr 2
        ring
    _ ≤ |Real.log x.toRat| * 10 ^ places := by gcongr

/-- A computed logarithm differs from the real one by at most one unit in the last of its fifty
digits. -/
theorem Decimal.abs_log_sub_le (positive : 0 < x.coeff) :
    10 ^ 49 * |(x.log.toRat : ℝ) - Real.log x.toRat| ≤ |(x.log.toRat : ℝ)| := by
  by_cases different : x ≠ ofInt 1
  · obtain ⟨places, settled, upper⟩ := log_cases different
    have inside := contains_encloseLog positive places
    obtain ⟨below, above, gap⟩ := inside.between
    have lower_close := abs_cast_round_sub_le (ofScaled (x.encloseLog places).lower (0 - places))
    rw [← settled] at lower_close
    rcases upper with settled' | last
    · have upper_close := abs_cast_round_sub_le (ofScaled (x.encloseLog places).upper (0 - places))
      rw [← settled'] at upper_close
      have between := abs_le_max_abs_abs (sub_le_sub_left above (x.log.toRat : ℝ))
        (sub_le_sub_left below (x.log.toRat : ℝ))
      rcases le_max_iff.mp between with near | near <;> linarith [abs_nonneg (x.log.toRat : ℝ)]
    · have unit : (0 : ℝ) < 10 ^ places := by positivity
      have narrow : 10 ^ 100 * (Real.log x.toRat -
          (ofScaled (x.encloseLog places).lower (0 - places)).toRat) ≤ |Real.log x.toRat| := by
        have last_width := width_encloseLog_last positive different last
        refine le_of_mul_le_mul_right ?_ unit
        linarith
      have chain := abs_sub_le (x.log.toRat : ℝ)
        (ofScaled (x.encloseLog places).lower (0 - places)).toRat (Real.log x.toRat)
      have ahead := abs_of_nonpos (sub_nonpos.mpr below)
      rw [ahead] at chain
      have back := abs_sub_abs_le_abs_sub (Real.log x.toRat) (x.log.toRat : ℝ)
      rw [abs_sub_comm] at back
      linarith
  · have zero : (ofInt 1).log = ofInt 0 := if_pos rfl
    rw [not_not.mp different, zero]
    simp

end Precision

end Spreadsheet
