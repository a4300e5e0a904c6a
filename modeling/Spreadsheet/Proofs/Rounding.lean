import Mathlib.Algebra.Order.Field.Power
import Mathlib.Tactic.FieldSimp
import Mathlib.Tactic.Linarith
import Mathlib.Tactic.Positivity
import Mathlib.Tactic.Ring
import Spreadsheet.Binary64.Shortest

/-!
# Rounding to doubles

The double that a ratio rounds to has the ratio in its rounding interval
(`RoundingInterval.contains_of_ofRatio`). A ratio well within the range of doubles rounds to a
finite one with a full significand (`Binary64.exists_ofRatio`), and a ratio that a double can hold
rounds to exactly that (`Binary64.ofRatio_exact`). Rounding keeps the order of ratios
(`roundedRatio_le`), and changes one that is not subnormal by little (`abs_roundedRatio_sub_le`).
-/

namespace Spreadsheet

/-! ## Powers of two -/

section Powers

variable {b : ℚ} {num den : ℕ}

/-- A power with a positive exponent, in terms of the two one-sided ones. -/
theorem pow_toNat (nonzero : b ≠ 0) (z : ℤ) : b ^ z.toNat = b ^ z * b ^ (-z).toNat := by
  rw [← zpow_natCast, ← zpow_natCast, ← zpow_add₀ nonzero]
  congr 1
  omega

/-- The scaled comparison of a ratio with a power of two. -/
theorem scaled_lt_iff {e : ℤ} :
    num * 2 ^ (-e).toNat < den * 2 ^ e.toNat ↔ (num : ℚ) < den * 2 ^ e := by
  have unit : (0 : ℚ) < 2 ^ (-e).toNat := by positivity
  rw [← Nat.cast_lt (α := ℚ)]
  push_cast
  rw [pow_toNat two_ne_zero e, ← mul_assoc, mul_lt_mul_iff_left₀ unit]

theorem floorLog2_spec (numerator : num ≠ 0) (denominator : den ≠ 0) :
    (2 : ℚ) ^ floorLog2 num den ≤ num / den ∧ (num : ℚ) / den < 2 ^ (floorLog2 num den + 1) := by
  have positive : (0 : ℚ) < den := by positivity
  have num_low : (2 : ℚ) ^ (num.log2 : ℤ) ≤ num := by
    exact_mod_cast Nat.log2_self_le numerator
  have num_high : (num : ℚ) < 2 ^ ((num.log2 : ℤ) + 1) := by
    exact_mod_cast Nat.lt_log2_self (n := num)
  have den_low : (2 : ℚ) ^ (den.log2 : ℤ) ≤ den := by
    exact_mod_cast Nat.log2_self_le denominator
  have den_high : (den : ℚ) < 2 ^ ((den.log2 : ℤ) + 1) := by
    exact_mod_cast Nat.lt_log2_self (n := den)
  have scale : ∀ z : ℤ, (0 : ℚ) < 2 ^ z := fun z => by positivity
  simp only [floorLog2, scaled_lt_iff]
  rw [le_div_iff₀ positive, div_lt_iff₀ positive]
  split
  next small =>
    constructor
    · calc (2 : ℚ) ^ ((num.log2 : ℤ) - den.log2 - 1) * den
          ≤ 2 ^ ((num.log2 : ℤ) - den.log2 - 1) * 2 ^ ((den.log2 : ℤ) + 1) :=
            mul_le_mul_of_nonneg_left den_high.le (scale _).le
        _ = 2 ^ (num.log2 : ℤ) := by rw [← zpow_add₀ two_ne_zero]; congr 1; omega
        _ ≤ num := num_low
    · rwa [sub_add_cancel, mul_comm]
  next large =>
    constructor
    · rw [mul_comm]
      exact not_lt.mp large
    · calc (num : ℚ) < 2 ^ ((num.log2 : ℤ) + 1) := num_high
        _ = 2 ^ ((num.log2 : ℤ) - den.log2 + 1) * 2 ^ (den.log2 : ℤ) := by
          rw [← zpow_add₀ two_ne_zero]; congr 1; omega
        _ ≤ 2 ^ ((num.log2 : ℤ) - den.log2 + 1) * den :=
          mul_le_mul_of_nonneg_left den_low (scale _).le

theorem le_floorLog2 {e : ℤ} (numerator : num ≠ 0) (denominator : den ≠ 0)
    (low : (2 : ℚ) ^ e ≤ num / den) : e ≤ floorLog2 num den := by
  rw [← Int.lt_add_one_iff, ← zpow_lt_zpow_iff_right₀ (one_lt_two (α := ℚ))]
  exact low.trans_lt (floorLog2_spec numerator denominator).2

end Powers

/-! ## Rounding intervals -/

/-- Whether `x` lies below `y`, or at it in a closed interval. -/
def RoundingInterval.Reaches (i : RoundingInterval) (x y : ℚ) : Prop :=
  if i.closed then x ≤ y else x < y

/-- Whether a value lies in the interval. -/
def RoundingInterval.Contains (i : RoundingInterval) (x : ℚ) : Prop :=
  i.Reaches (i.lower * 2 ^ i.exponent) x ∧ i.Reaches x (i.upper * 2 ^ i.exponent)

/-- The integer next to a ratio is at most a half away from it, and closer if it is odd. -/
theorem roundHalfEven_spec {num den : ℕ} (denominator : den ≠ 0) :
    let q := roundHalfEven num den
    (q : ℚ) - 1 / 2 ≤ num / den ∧ (num : ℚ) / den ≤ q + 1 / 2 ∧
      (q % 2 = 1 → (q : ℚ) - 1 / 2 < num / den ∧ (num : ℚ) / den < q + 1 / 2) := by
  intro q
  have parts : den * (num / den) + num % den = num := Nat.div_add_mod num den
  have rest : num % den < den := Nat.mod_lt _ (Nat.pos_of_ne_zero denominator)
  have near : 2 * (q * den) ≤ 2 * num + den ∧ 2 * num ≤ 2 * (q * den) + den ∧
      (q % 2 = 1 → 2 * (q * den) < 2 * num + den ∧ 2 * num < 2 * (q * den) + den) := by
    have next : (num / den + 1) * den = den * (num / den) + den := by ring
    have here : num / den * den = den * (num / den) := Nat.mul_comm _ _
    simp only [q, roundHalfEven]
    split
    · rw [next]
      omega
    · rw [here]
      omega
  have positive : (0 : ℚ) < den := by positivity
  rw [le_div_iff₀ positive, div_le_iff₀ positive, lt_div_iff₀ positive, div_lt_iff₀ positive]
  obtain ⟨low, high, odd⟩ := near
  rw [← Nat.cast_le (α := ℚ)] at low high
  rw [← Nat.cast_lt (α := ℚ), ← Nat.cast_lt (α := ℚ)] at odd
  push_cast at low high odd
  refine ⟨by linarith, by linarith, fun uneven => ?_⟩
  obtain ⟨low, high⟩ := odd uneven
  exact ⟨by linarith, by linarith⟩

/-- The values in the rounding interval of a double, in units of its last place: those at most a
half away, and closer if the significand is odd. Below a power of two it is a quarter. -/
theorem RoundingInterval.contains_ofDouble {m : ℕ} {e : ℤ} {x : ℚ} (positive : 0 ≤ x)
    (low : m - 1 / 2 ≤ x) (power : m = 2 ^ 52 → -1074 < e → 2 ^ 52 - 1 / 4 ≤ x)
    (high : x ≤ m + 1 / 2) (odd : m % 2 = 1 → m - 1 / 2 < x ∧ x < m + 1 / 2) :
    (ofDouble m e).Contains (x * 2 ^ e) := by
  have unit : (0 : ℚ) < 2 ^ e := by positivity
  have quarter : (2 : ℚ) ^ (ofDouble m e).exponent = 2 ^ e / 4 := by
    rw [ofDouble, zpow_sub₀ two_ne_zero]
    norm_num
  have lower :
      ((ofDouble m e).lower : ℚ) * (2 ^ e / 4) = (ofDouble m e).lower / 4 * 2 ^ e := by ring
  have upper : ((ofDouble m e).upper : ℚ) * (2 ^ e / 4) = (m + 1 / 2) * 2 ^ e := by
    simp only [ofDouble]
    push_cast
    ring
  have closed : (ofDouble m e).closed = decide (m % 2 = 0) := rfl
  have half : m ≠ 0 → ((4 * m - 2 : ℕ) : ℚ) / 4 = m - 1 / 2 := by
    intro nonzero
    rw [Nat.cast_sub (by omega)]
    push_cast
    ring
  rw [Contains, Reaches, Reaches, quarter, lower, upper, closed]
  by_cases even : m % 2 = 0
  · have reached : ((ofDouble m e).lower : ℚ) / 4 ≤ x := by
      simp only [ofDouble]
      split
      next at_power =>
        rw [at_power.1]
        have reached := power at_power.1 at_power.2
        norm_num at reached ⊢
        exact reached
      next =>
        by_cases zero : m = 0
        · simpa [zero] using positive
        · rwa [half zero]
    rw [decide_eq_true even, if_pos rfl, if_pos rfl]
    exact ⟨mul_le_mul_of_nonneg_right reached unit.le, mul_le_mul_of_nonneg_right high unit.le⟩
  · obtain ⟨low, high⟩ := odd (by omega)
    have plain : ((ofDouble m e).lower : ℚ) / 4 = m - 1 / 2 := by
      simp only [ofDouble]
      rw [if_neg (by omega), half (by omega)]
    rw [decide_eq_false even, if_neg (by decide), if_neg (by decide), plain]
    exact ⟨mul_lt_mul_of_pos_right low unit, mul_lt_mul_of_pos_right high unit⟩

section OfRatio

variable {negative : Bool} {num den : ℕ}

/-- The exponent that a ratio is rounded with before its significand reaches a power of two. -/
def ratioExponent (num den : ℕ) : ℤ :=
  max (floorLog2 num den - 52) (-1074)

/-- The significand that a ratio is rounded to. -/
def ratioSignificand (num den : ℕ) : ℕ :=
  roundHalfEven (num * 2 ^ (-ratioExponent num den).toNat) (den * 2 ^ (ratioExponent num den).toNat)

/-- The value that a ratio is rounded to, if it is within the range of doubles. -/
def roundedRatio (num den : ℕ) : ℚ :=
  ratioSignificand num den * 2 ^ ratioExponent num den

theorem roundedRatio_nonneg (num den : ℕ) : 0 ≤ roundedRatio num den := by
  rw [roundedRatio]
  positivity

/-- A rounded ratio, by whether its significand reaches the next power of two. -/
theorem Binary64.ofRatio_eq (numerator : num ≠ 0) :
    ofRatio negative num den =
      if ratioSignificand num den = 2 ^ 53 then
        if 971 < ratioExponent num den + 1 then .infinity negative
        else .finite negative (2 ^ 52) (ratioExponent num den + 1)
      else if 971 < ratioExponent num den then .infinity negative
        else .finite negative (ratioSignificand num den) (ratioExponent num den) := by
  let parts : ℕ × ℤ :=
    if ratioSignificand num den = 2 ^ 53 then (2 ^ 52, ratioExponent num den + 1)
    else (ratioSignificand num den, ratioExponent num den)
  have carried : ofRatio negative num den =
      if 971 < parts.2 then .infinity negative else .finite negative parts.1 parts.2 :=
    if_neg numerator
  rw [carried]
  by_cases carry : ratioSignificand num den = 2 ^ 53
  · simp only [parts, if_pos carry]
  · simp only [parts, if_neg carry]

/-- The significand of a ratio is at most a half away from the ratio in units of its last place, and
closer if it is odd. -/
theorem ratioSignificand_spec (num : ℕ) (denominator : den ≠ 0) :
    let q : ℚ := ratioSignificand num den
    let x := (num : ℚ) / den / 2 ^ ratioExponent num den
    q - 1 / 2 ≤ x ∧ x ≤ q + 1 / 2 ∧
      (ratioSignificand num den % 2 = 1 → q - 1 / 2 < x ∧ x < q + 1 / 2) := by
  intro q x
  have scaled : x = ((num * 2 ^ (-ratioExponent num den).toNat : ℕ) : ℚ) /
      (den * 2 ^ (ratioExponent num den).toNat : ℕ) := by
    have positive : (0 : ℚ) < den := by positivity
    simp only [x]
    push_cast
    rw [pow_toNat two_ne_zero (ratioExponent num den)]
    field_simp
  rw [scaled]
  exact roundHalfEven_spec (Nat.mul_ne_zero denominator (by positivity))

/-- The ratio in units of the last place of its significand. -/
theorem ratioExponent_spec (numerator : num ≠ 0) (denominator : den ≠ 0) :
    let x := (num : ℚ) / den / 2 ^ ratioExponent num den
    x < 2 ^ 53 ∧ (-1022 ≤ floorLog2 num den → 2 ^ 52 ≤ x) := by
  intro x
  have unit : (0 : ℚ) < 2 ^ ratioExponent num den := by positivity
  obtain ⟨low, high⟩ := floorLog2_spec numerator denominator
  constructor
  · rw [div_lt_iff₀ unit]
    calc (num : ℚ) / den < 2 ^ (floorLog2 num den + 1) := high
      _ ≤ 2 ^ (53 + ratioExponent num den) :=
        zpow_le_zpow_right₀ one_le_two (by rw [ratioExponent]; omega)
      _ = 2 ^ 53 * 2 ^ ratioExponent num den := zpow_add₀ two_ne_zero _ _
  · intro normal
    have top : floorLog2 num den = 52 + ratioExponent num den := by
      rw [ratioExponent]
      omega
    rw [le_div_iff₀ unit]
    calc (2 : ℚ) ^ 52 * 2 ^ ratioExponent num den = 2 ^ (52 + ratioExponent num den) :=
          (zpow_add₀ two_ne_zero _ _).symm
      _ ≤ num / den := top ▸ low

/-- A ratio lies in the rounding interval of the double that it is rounded to. -/
theorem RoundingInterval.contains_of_ofRatio {negative' : Bool} {m : ℕ} {e : ℤ}
    (numerator : num ≠ 0) (denominator : den ≠ 0)
    (rounded : Binary64.ofRatio negative num den = .finite negative' m e) :
    (ofDouble m e).Contains (num / den) := by
  obtain ⟨low, high, odd⟩ := ratioSignificand_spec num denominator
  obtain ⟨below, normal⟩ := ratioExponent_spec numerator denominator
  have least : -1074 ≤ ratioExponent num den := le_max_right _ _
  have unit : (0 : ℚ) < 2 ^ ratioExponent num den := by positivity
  have units : (num : ℚ) / den =
      num / den / 2 ^ ratioExponent num den * 2 ^ ratioExponent num den :=
    (div_mul_cancel₀ _ unit.ne').symm
  generalize (num : ℚ) / den / 2 ^ ratioExponent num den = x at low high odd below normal units
  have positive : 0 ≤ x := by
    have : 0 ≤ x * 2 ^ ratioExponent num den := units ▸ by positivity
    exact nonneg_of_mul_nonneg_left this unit
  rw [Binary64.ofRatio_eq numerator] at rounded
  split at rounded
  next carry =>
    split at rounded <;> cases rounded
    have halved : x * 2 ^ ratioExponent num den = x / 2 * 2 ^ (ratioExponent num den + 1) := by
      rw [zpow_add_one₀ two_ne_zero]
      ring
    rw [carry] at low
    push_cast at low
    rw [units, halved]
    refine contains_ofDouble (by linarith) ?_ (fun _ _ => by linarith) ?_
      (fun odd => absurd odd (by decide)) <;>
      push_cast <;> linarith
  next =>
    split at rounded <;> cases rounded
    rw [units]
    refine contains_ofDouble positive low (fun _ inside => ?_) high odd
    linarith [normal (by rw [ratioExponent] at inside; omega)]

/-- A ratio in the lower half of the range of doubles, whatever its sign, rounds to a finite one. -/
theorem Binary64.ofRatio_eq_finite (numerator : num ≠ 0) (denominator : den ≠ 0)
    (high : (num : ℚ) / den < 2 ^ 1023) :
    ofRatio negative num den =
      if ratioSignificand num den = 2 ^ 53 then
        .finite negative (2 ^ 52) (ratioExponent num den + 1)
      else .finite negative (ratioSignificand num den) (ratioExponent num den) := by
  have top : floorLog2 num den < 1023 := by
    rw [← zpow_lt_zpow_iff_right₀ (one_lt_two (α := ℚ))]
    exact (floorLog2_spec numerator denominator).1.trans_lt (by exact_mod_cast high)
  have inside : ratioExponent num den + 1 ≤ 971 := by
    rw [ratioExponent]
    omega
  rw [ofRatio_eq numerator, if_neg (not_lt.mpr inside),
    if_neg (not_lt.mpr ((lt_add_one _).le.trans inside))]

/-- A ratio well within the range of doubles rounds to a finite one with a full significand. -/
theorem Binary64.exists_ofRatio (negative : Bool) (numerator : num ≠ 0) (denominator : den ≠ 0)
    (low : (2 : ℚ) ^ (-1022 : ℤ) ≤ num / den) (high : (num : ℚ) / den < 2 ^ 1023) :
    ∃ m e, ofRatio negative num den = .finite negative m e ∧ 2 ^ 52 ≤ m ∧ m < 2 ^ 53 := by
  have normal := le_floorLog2 numerator denominator low
  obtain ⟨nearly, close, -⟩ := ratioSignificand_spec num denominator
  obtain ⟨below, full⟩ := ratioExponent_spec numerator denominator
  have full := full normal
  rw [ofRatio_eq_finite numerator denominator high]
  split
  next => exact ⟨2 ^ 52, _, rfl, le_rfl, by norm_num⟩
  next uncarried =>
    refine ⟨_, _, rfl, ?_, ?_⟩
    · have : (2 ^ 52 : ℚ) < ratioSignificand num den + 1 := by linarith
      exact Nat.lt_succ_iff.mp (by exact_mod_cast this)
    · have : (ratioSignificand num den : ℚ) < 2 ^ 53 + 1 := by linarith
      exact lt_of_le_of_ne (Nat.lt_succ_iff.mp (by exact_mod_cast this)) uncarried

/-- A ratio with 53 bits is not changed by rounding. -/
theorem roundedRatio_exact {k : ℕ} {j : ℤ} (numerator : num ≠ 0) (denominator : den ≠ 0)
    (value : (num : ℚ) / den = k * 2 ^ j) (fits : k < 2 ^ 53) (least : -1074 ≤ j) :
    roundedRatio num den = num / den := by
  have unit : (0 : ℚ) < 2 ^ ratioExponent num den := by positivity
  have coarser : ratioExponent num den ≤ j := by
    have : floorLog2 num den < 53 + j := by
      rw [← zpow_lt_zpow_iff_right₀ (one_lt_two (α := ℚ))]
      calc (2 : ℚ) ^ floorLog2 num den ≤ k * 2 ^ j :=
            value ▸ (floorLog2_spec numerator denominator).1
        _ < 2 ^ (53 : ℤ) * 2 ^ j := by gcongr; exact_mod_cast fits
        _ = 2 ^ (53 + j) := (zpow_add₀ two_ne_zero _ _).symm
    rw [ratioExponent]
    omega
  have whole : (num : ℚ) / den / 2 ^ ratioExponent num den =
      (k * 2 ^ (j - ratioExponent num den).toNat : ℕ) := by
    rw [value, div_eq_iff unit.ne']
    push_cast
    rw [← zpow_natCast, mul_assoc, ← zpow_add₀ two_ne_zero]
    congr 2
    omega
  have same : (ratioSignificand num den : ℚ) = num / den / 2 ^ ratioExponent num den := by
    obtain ⟨nearly, close, -⟩ := ratioSignificand_spec num denominator
    rw [whole] at nearly close ⊢
    generalize k * 2 ^ (j - ratioExponent num den).toNat = target at nearly close ⊢
    have upward : (ratioSignificand num den : ℚ) < target + 1 := by linarith
    have downward : (target : ℚ) < ratioSignificand num den + 1 := by linarith
    norm_cast at upward downward ⊢
    omega
  rw [roundedRatio, same, div_mul_cancel₀ _ unit.ne']

/-- A finite double that a ratio rounds to has the sign that it is given, and the value of the
significand, whether or not that is carried. -/
theorem Binary64.eq_of_ofRatio_eq_finite {negative' : Bool} {m : ℕ} {e : ℤ} (numerator : num ≠ 0)
    (rounded : ofRatio negative num den = .finite negative' m e) :
    negative' = negative ∧ (m : ℚ) * 2 ^ e = roundedRatio num den := by
  rw [ofRatio_eq numerator] at rounded
  split at rounded
  next carry =>
    split at rounded <;> cases rounded
    refine ⟨rfl, ?_⟩
    rw [roundedRatio, carry, zpow_add_one₀ two_ne_zero]
    push_cast
    ring
  next =>
    split at rounded <;> cases rounded
    exact ⟨rfl, rfl⟩

/-- A ratio that a double can hold rounds to exactly that. -/
theorem Binary64.ofRatio_exact (negative : Bool) {k : ℕ} {j : ℤ} (numerator : num ≠ 0)
    (denominator : den ≠ 0) (value : (num : ℚ) / den = k * 2 ^ j) (fits : k < 2 ^ 53)
    (least : -1074 ≤ j) (high : (num : ℚ) / den < 2 ^ 1023) :
    ∃ m e, ofRatio negative num den = .finite negative m e ∧ (m : ℚ) * 2 ^ e = num / den := by
  obtain ⟨m, e, rounded⟩ : ∃ m e, ofRatio negative num den = .finite negative m e := by
    rw [ofRatio_eq_finite numerator denominator high]
    split <;> exact ⟨_, _, rfl⟩
  refine ⟨m, e, rounded, ?_⟩
  rw [(eq_of_ofRatio_eq_finite numerator rounded).2]
  exact roundedRatio_exact numerator denominator value fits least

end OfRatio

/-! ## Order -/

section Order

variable {num den num' den' : ℕ}

/-- Of two numbers the integers nearest to them, ties going to the even one, are in the same order. -/
theorem nearest_le_nearest {q q' : ℕ} {x x' : ℚ} (le : x ≤ x') (low : q - 1 / 2 ≤ x)
    (odd : q % 2 = 1 → q - 1 / 2 < x) (high : x' ≤ q' + 1 / 2)
    (odd' : q' % 2 = 1 → x' < q' + 1 / 2) : q ≤ q' := by
  by_contra greater
  have next : (q' : ℚ) + 1 ≤ q := by exact_mod_cast not_le.mp greater
  -- Both numbers are the tie between the two integers, of which one is odd.
  have tie : (q : ℚ) = (q' + 1 : ℕ) := by push_cast; linarith
  rw [Nat.cast_inj] at tie
  rcases Nat.mod_two_eq_zero_or_one q with even | uneven
  · linarith [odd' (by omega)]
  · linarith [odd uneven]

theorem ratioExponent_le (numerator : num ≠ 0) (denominator : den ≠ 0) (numerator' : num' ≠ 0)
    (denominator' : den' ≠ 0) (le : (num : ℚ) / den ≤ num' / den') :
    ratioExponent num den ≤ ratioExponent num' den' := by
  have top : floorLog2 num den ≤ floorLog2 num' den' :=
    le_floorLog2 numerator' denominator' ((floorLog2_spec numerator denominator).1.trans le)
  rw [ratioExponent, ratioExponent]
  omega

/-- Rounding keeps the order of ratios. -/
theorem roundedRatio_le (numerator : num ≠ 0) (denominator : den ≠ 0) (numerator' : num' ≠ 0)
    (denominator' : den' ≠ 0) (le : (num : ℚ) / den ≤ num' / den') :
    roundedRatio num den ≤ roundedRatio num' den' := by
  have unit : (0 : ℚ) < 2 ^ ratioExponent num den := by positivity
  obtain ⟨low, -, odd⟩ := ratioSignificand_spec num denominator
  obtain ⟨-, high', odd'⟩ := ratioSignificand_spec num' denominator'
  rw [roundedRatio, roundedRatio]
  rcases (ratioExponent_le numerator denominator numerator' denominator' le).eq_or_lt with
    same | finer
  · rw [← same] at high' odd' ⊢
    have scaled : (num : ℚ) / den / 2 ^ ratioExponent num den ≤
        num' / den' / 2 ^ ratioExponent num den := by gcongr
    have digits := nearest_le_nearest scaled low (fun uneven => (odd uneven).1) high'
      (fun uneven => (odd' uneven).2)
    gcongr
  · -- The finer significand is at most `2 ^ 53`, and the coarser one is full.
    have normal : -1022 ≤ floorLog2 num' den' := by
      simp only [ratioExponent] at finer
      omega
    have full := (ratioExponent_spec numerator' denominator').2 normal
    have below := (ratioExponent_spec numerator denominator).1
    have most : ratioSignificand num den ≤ 2 ^ 53 := by
      have : (ratioSignificand num den : ℚ) < 2 ^ 53 + 1 := by linarith
      exact Nat.lt_succ_iff.mp (by exact_mod_cast this)
    have least : 2 ^ 52 ≤ ratioSignificand num' den' := by
      have : (2 ^ 52 : ℚ) < ratioSignificand num' den' + 1 := by linarith
      exact Nat.lt_succ_iff.mp (by exact_mod_cast this)
    calc (ratioSignificand num den : ℚ) * 2 ^ ratioExponent num den
        ≤ 2 ^ 53 * 2 ^ ratioExponent num den := by gcongr; exact_mod_cast most
      _ = 2 ^ 52 * 2 ^ (ratioExponent num den + 1) := by
        rw [zpow_add_one₀ two_ne_zero]
        ring
      _ ≤ 2 ^ 52 * 2 ^ ratioExponent num' den' := by
        gcongr
        · exact one_le_two
        · omega
      _ ≤ ratioSignificand num' den' * 2 ^ ratioExponent num' den' := by
        gcongr
        exact_mod_cast least

/-- A ratio that is not subnormal is rounded by at most half a unit in the last of 53 bits. -/
theorem abs_roundedRatio_sub_le (numerator : num ≠ 0) (denominator : den ≠ 0)
    (low : (2 : ℚ) ^ (-1022 : ℤ) ≤ num / den) :
    2 ^ 53 * |roundedRatio num den - num / den| ≤ num / den := by
  have unit : (0 : ℚ) < 2 ^ ratioExponent num den := by positivity
  have full := (ratioExponent_spec numerator denominator).2
    (le_floorLog2 numerator denominator low)
  obtain ⟨below, above, -⟩ := ratioSignificand_spec num denominator
  have units : (num : ℚ) / den =
      num / den / 2 ^ ratioExponent num den * 2 ^ ratioExponent num den :=
    (div_mul_cancel₀ _ unit.ne').symm
  rw [roundedRatio, units]
  generalize (num : ℚ) / den / 2 ^ ratioExponent num den = x at full below above ⊢
  have near : |(ratioSignificand num den : ℚ) - x| ≤ 1 / 2 :=
    abs_le.mpr ⟨by linarith, by linarith⟩
  rw [← sub_mul, abs_mul, abs_of_pos unit, ← mul_assoc]
  gcongr
  linarith

/-- Ratios that differ in the last of 53 bits at most are rounded to values next to each other. -/
theorem roundedRatio_close (numerator : num ≠ 0) (denominator : den ≠ 0) (numerator' : num' ≠ 0)
    (denominator' : den' ≠ 0) (low : (2 : ℚ) ^ (-1022 : ℤ) ≤ num / den)
    (le : (num : ℚ) / den ≤ num' / den')
    (close : 2 ^ 52 * ((num' : ℚ) / den' - num / den) ≤ num / den) :
    2 ^ 50 * (roundedRatio num' den' - roundedRatio num den) ≤ roundedRatio num den := by
  have here := abs_roundedRatio_sub_le numerator denominator low
  have there := abs_roundedRatio_sub_le numerator' denominator' (low.trans le)
  rw [← abs_of_pos (show (0 : ℚ) < 2 ^ 53 by norm_num), ← abs_mul, abs_le] at here there
  linarith

end Order

end Spreadsheet
