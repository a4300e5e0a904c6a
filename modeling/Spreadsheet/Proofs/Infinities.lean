import Spreadsheet.Proofs.DecimalValues
import Spreadsheet.Proofs.ShortestDecimal

/-!
# Decimals next to infinities

Next to an infinity a decimal counts as its double. The double has the sign of the decimal
(`Decimal.hasSign_toBinary64`). A decimal well within the range of doubles has a finite one just if
its exponent is at least -308 and its digits, read as an integer, are a finite double: these decide,
not the magnitude, so a tiny decimal, or one with its digits far behind the point, counts as an
infinity (`Number.isBetweenInfinities_iff`).
-/

namespace Spreadsheet

/-! ## Signs -/

/-- Whether a double is finite or infinite with a given sign. -/
inductive Binary64.HasSign (negative : Bool) : Binary64 → Prop
  | finite (m : ℕ) (e : ℤ) : HasSign negative (.finite negative m e)
  | infinity : HasSign negative (.infinity negative)

section Signs

variable {negative : Bool} {x : Binary64} {n : ℕ}

theorem Binary64.hasSign_ofRatio (negative : Bool) (num den : ℕ) :
    HasSign negative (ofRatio negative num den) := by
  by_cases numerator : num = 0
  · rw [ofRatio, if_pos numerator]
    exact .finite 0 (-1074)
  · rw [ofRatio_eq numerator]
    split <;> split
    · exact .infinity
    · exact .finite _ _
    · exact .infinity
    · exact .finite _ _

theorem Binary64.HasSign.mul (sign : HasSign negative x) (nonzero : n ≠ 0) (f : ℤ) :
    HasSign negative (x.mul (.finite false n f)) := by
  cases sign with
  | finite m e =>
    have product : HasSign (negative != false) (mul (.finite negative m e) (.finite false n f)) :=
      hasSign_ofRatio _ _ _
    rwa [Bool.bne_false] at product
  | infinity =>
    rw [Binary64.mul, if_neg nonzero, Bool.bne_false]
    exact .infinity

theorem Binary64.HasSign.div (sign : HasSign negative x) (nonzero : n ≠ 0) (f : ℤ) :
    HasSign negative (x.div (.finite false n f)) := by
  cases sign with
  | finite m e =>
    rw [Binary64.div, if_neg nonzero, Bool.bne_false]
    exact hasSign_ofRatio negative _ _
  | infinity =>
    rw [Binary64.div, Bool.bne_false]
    exact .infinity

end Signs

/-! ## Doubles of decimals -/

/-- Cutting bits off toward minus infinity keeps the sign, and does not double the magnitude. -/
theorem leadingBits_spec (n : ℤ) :
    (leadingBits n).sign = n.sign ∧ (leadingBits n).natAbs ≤ 2 * n.natAbs := by
  by_cases zero : n = 0
  · rw [zero]
    decide
  rw [leadingBits, if_neg zero]
  generalize cut : n.natAbs.log2 + 1 - 53 = surplus
  have positive : (0 : ℤ) < 2 ^ surplus := by positivity
  have unit : (2 : ℤ) ^ surplus ≤ n.natAbs := by
    have : 2 ^ surplus ≤ n.natAbs :=
      (Nat.pow_le_pow_right (by decide) (by omega)).trans
        (Nat.log2_self_le (Int.natAbs_ne_zero.mpr zero))
    exact_mod_cast this
  have below : n / 2 ^ surplus * 2 ^ surplus ≤ n := Int.ediv_mul_le n positive.ne'
  have above : n < n / 2 ^ surplus * 2 ^ surplus + 2 ^ surplus :=
    (Int.lt_ediv_add_one_mul_self n positive).trans_eq (by ring)
  rcases Int.lt_or_gt_of_ne zero with negative | nonnegative
  · rw [Int.sign_eq_neg_one_of_neg negative, Int.sign_eq_neg_one_of_neg (by omega)]
    exact ⟨rfl, by omega⟩
  · rw [Int.sign_eq_one_of_pos nonnegative, Int.sign_eq_one_of_pos (by omega)]
    exact ⟨rfl, by omega⟩

/-- The double of leading bits, with the sign of the integer that they are taken from. -/
theorem Binary64.ofInt_leadingBits (n : ℤ) :
    ofInt (leadingBits n) = ofRatio (n < 0) (leadingBits n).natAbs 1 := by
  have sign : leadingBits n < 0 ↔ n < 0 := by
    rw [← Int.sign_eq_neg_one_iff_neg, (leadingBits_spec n).1, Int.sign_eq_neg_one_iff_neg]
  rw [ofInt, decide_eq_decide.mpr sign]

theorem Binary64.hasSign_leadingBits (n : ℤ) : HasSign (n < 0) (ofInt (leadingBits n)) := by
  rw [ofInt_leadingBits]
  exact hasSign_ofRatio _ _ 1

/-- The room that the range of doubles leaves above decimals well within it. -/
theorem sixteen_mul_lt {q : ℚ} (bounded : q ≤ 10 ^ 300) : 16 * q < 2 ^ 1023 :=
  calc 16 * q ≤ 2 ^ 4 * (10 ^ 3) ^ 100 := by
        rw [← pow_mul]
        norm_num only
        gcongr
    _ ≤ 2 ^ 4 * (2 ^ 10) ^ 100 := by gcongr; norm_num
    _ = 2 ^ (4 + 10 * 100) := by rw [← pow_mul, ← pow_add]
    _ < 2 ^ 1023 := pow_lt_pow_right₀ one_lt_two (by decide)

section Ratios

variable {negative : Bool} {num den m : ℕ} {e : ℤ}

/-- What a ratio is rounded to is not much greater than the ratio. -/
theorem roundedRatio_le_add_one (numerator : num ≠ 0) (denominator : den ≠ 0) :
    roundedRatio num den ≤ 2 * (num / den) + 1 := by
  have nonnegative : (0 : ℚ) ≤ num / den := by positivity
  have unit : (0 : ℚ) < 2 ^ ratioExponent num den := by positivity
  have small_unit : (2 : ℚ) ^ ratioExponent num den ≤ num / den + 1 := by
    rcases le_total (floorLog2 num den - 52) (-1074) with subnormal | normal
    · rw [ratioExponent, max_eq_right subnormal]
      exact (zpow_le_one_of_nonpos₀ one_le_two (by decide)).trans
        (le_add_of_nonneg_left nonnegative)
    · rw [ratioExponent, max_eq_left normal]
      have : (2 : ℚ) ^ (floorLog2 num den - 52) ≤ 2 ^ floorLog2 num den :=
        zpow_le_zpow_right₀ one_le_two (by omega)
      linarith [(floorLog2_spec numerator denominator).1]
  have near := (ratioSignificand_spec num denominator).1
  rw [le_div_iff₀ unit, sub_mul] at near
  rw [roundedRatio]
  linarith

/-- A ratio of at least one that rounds to a finite double is not far from it. -/
theorem Binary64.exists_ofRatio_of_isFinite (denominator : den ≠ 0) (least : 1 ≤ (num : ℚ) / den)
    (finite : (ofRatio negative num den).isFinite) :
    ∃ m e, ofRatio negative num den = .finite negative m e ∧ m ≠ 0 ∧
      (m : ℚ) * 2 ^ e ≤ 3 * (num / den) := by
  have numerator : num ≠ 0 := by
    rintro rfl
    norm_num at least
  have whole : 0 ≤ floorLog2 num den :=
    le_floorLog2 numerator denominator ((zpow_zero (2 : ℚ)).trans_le least)
  have magnitude := roundedRatio_le_add_one numerator denominator
  have full := (ratioExponent_spec numerator denominator).2 (by omega)
  have close := (ratioSignificand_spec num denominator).2.1
  have digits : (0 : ℚ) < ratioSignificand num den := by linarith
  cases rounded : ofRatio negative num den with
  | finite negative' m e =>
    obtain ⟨rfl, value⟩ := eq_of_ofRatio_eq_finite numerator rounded
    refine ⟨m, e, rfl, ?_, by linarith⟩
    rintro rfl
    have positive : 0 < roundedRatio num den := by
      rw [roundedRatio]
      positivity
    rw [← value, Nat.cast_zero, zero_mul] at positive
    exact positive.false
  | nan =>
    rw [rounded] at finite
    cases finite
  | infinity negative' =>
    rw [rounded] at finite
    cases finite

/-- A ratio below the upper half of the range of doubles rounds to a finite one, of a magnitude not
much greater. -/
theorem Binary64.exists_ofRatio_of_lt (negative : Bool) (denominator : den ≠ 0)
    (high : (num : ℚ) / den < 2 ^ 1023) :
    ∃ m e, ofRatio negative num den = .finite negative m e ∧
      (m : ℚ) * 2 ^ e ≤ 2 * (num / den) + 1 := by
  by_cases numerator : num = 0
  · refine ⟨0, -1074, by rw [ofRatio, if_pos numerator]; rfl, ?_⟩
    rw [numerator, Nat.cast_zero, zero_mul, zero_div, mul_zero, zero_add]
    exact zero_le_one
  obtain ⟨m, e, rounded⟩ : ∃ m e, ofRatio negative num den = .finite negative m e := by
    rw [ofRatio_eq_finite numerator denominator high]
    split <;> exact ⟨_, _, rfl⟩
  refine ⟨m, e, rounded, ?_⟩
  rw [(eq_of_ofRatio_eq_finite numerator rounded).2]
  exact roundedRatio_le_add_one numerator denominator

section Integers

variable {n : ℤ}

theorem Binary64.isFinite_ofInt_leadingBits (few : (n.natAbs : ℚ) ≤ 10 ^ 300) :
    (ofInt (leadingBits n)).isFinite := by
  have high : ((leadingBits n).natAbs : ℚ) / (1 : ℕ) < 2 ^ 1023 := by
    rw [Nat.cast_one, div_one]
    calc ((leadingBits n).natAbs : ℚ) ≤ 2 * n.natAbs := by exact_mod_cast (leadingBits_spec n).2
      _ ≤ 16 * n.natAbs := by gcongr; norm_num
      _ < 2 ^ 1023 := sixteen_mul_lt few
  obtain ⟨m, e, rounded, -⟩ := exists_ofRatio_of_lt (n < 0) one_ne_zero high
  rw [ofInt_leadingBits, rounded]
  rfl

/-- If the leading bits of an integer are a finite double, it is at most six times the integer. -/
theorem Binary64.exists_ofInt_leadingBits (nonzero : n ≠ 0)
    (finite : (ofInt (leadingBits n)).isFinite) :
    ∃ m e, ofInt (leadingBits n) = .finite (n < 0) m e ∧ m ≠ 0 ∧
      (m : ℚ) * 2 ^ e ≤ 6 * n.natAbs := by
  obtain ⟨sign, cut⟩ := leadingBits_spec n
  have some_left : leadingBits n ≠ 0 := by
    rw [Ne, ← Int.sign_eq_zero_iff_zero, sign, Int.sign_eq_zero_iff_zero]
    exact nonzero
  have ratio : ((leadingBits n).natAbs : ℚ) / (1 : ℕ) = (leadingBits n).natAbs := by
    rw [Nat.cast_one, div_one]
  have least : 1 ≤ ((leadingBits n).natAbs : ℚ) / (1 : ℕ) := by
    rw [ratio]
    exact_mod_cast Nat.one_le_iff_ne_zero.mpr (Int.natAbs_ne_zero.mpr some_left)
  rw [ofInt_leadingBits] at finite ⊢
  obtain ⟨m, e, rounded, left, most⟩ := exists_ofRatio_of_isFinite one_ne_zero least finite
  refine ⟨m, e, rounded, left, ?_⟩
  have : ((leadingBits n).natAbs : ℚ) ≤ 2 * n.natAbs := by exact_mod_cast cut
  rw [ratio] at most
  linarith

end Integers

end Ratios

/-- Whether a double is a positive value next to a number, at most twice or at least half of it. -/
def Binary64.isNear (x : Binary64) (n : ℕ) : Bool :=
  match x with
  | .finite false m e =>
    n * 2 ^ (-e).toNat ≤ 2 * (m * 2 ^ e.toNat) && m * 2 ^ e.toNat ≤ 2 * (n * 2 ^ (-e).toNat)
  | _ => false

/-- The powers of ten by which the leading bits of a decimal are scaled are finite doubles. -/
theorem Binary64.powNat_ten {k : ℕ} (small : k ≤ 308) :
    ∃ m e, (ofInt 10).powNat k = .finite false m e ∧ m ≠ 0 ∧
      (10 : ℚ) ^ k ≤ 2 * (m * 2 ^ e) ∧ (m : ℚ) * 2 ^ e ≤ 2 * 10 ^ k := by
  have table : ∀ k : Fin 309, ((ofInt 10).powNat k).isNear (10 ^ k.val) := by
    decide +kernel
  have near := table ⟨k, by omega⟩
  simp only [isNear] at near
  split at near
  next m e power =>
    have unit : (0 : ℚ) < 2 ^ (-e).toNat := by positivity
    rw [Bool.and_eq_true, decide_eq_true_iff, decide_eq_true_iff, ← Nat.cast_le (α := ℚ),
      ← Nat.cast_le (α := ℚ)] at near
    push_cast at near
    rw [pow_toNat two_ne_zero e] at near
    obtain ⟨low, high⟩ := near
    have least : (10 : ℚ) ^ k ≤ 2 * (m * 2 ^ e) := le_of_mul_le_mul_right (by linarith) unit
    have most : (m : ℚ) * 2 ^ e ≤ 2 * 10 ^ k := le_of_mul_le_mul_right (by linarith) unit
    refine ⟨m, e, power, ?_, least, most⟩
    rintro rfl
    have positive : (0 : ℚ) < 10 ^ k := by positivity
    rw [Nat.cast_zero, zero_mul, mul_zero] at least
    exact absurd least positive.not_ge
  next => cases near

section Decimals

variable {x : Decimal}

/-- Whether a decimal well within the range of doubles has one: its exponent is not too low, and the
double of its digits, read as an integer, is finite. -/
def Decimal.HasDouble (x : Decimal) : Prop :=
  -308 ≤ x.exp ∧ (Binary64.ofInt (leadingBits x.coeff)).isFinite
deriving Decidable

/-- Below an exponent of -308 and above one of 308 a decimal has no double, however small or large it
is. -/
theorem Decimal.toBinary64?_eq_none (outside : x.exp < -308 ∨ 308 < x.exp) :
    x.toBinary64? = none := by
  have units : x.exp ≠ 0 := by omega
  have upward : ¬ (1 ≤ x.exp ∧ x.exp ≤ 308) := by omega
  have downward : ¬ (-308 ≤ x.exp ∧ x.exp ≤ -1) := by omega
  rw [toBinary64?, if_neg units, if_neg upward, if_neg downward]
  rfl

/-- Nor has it one if the double of its digits is infinite. -/
theorem Decimal.toBinary64?_eq_none_of_infinite
    (infinite : ¬ (Binary64.ofInt (leadingBits x.coeff)).isFinite) : x.toBinary64? = none := by
  obtain ⟨negative, leading⟩ : ∃ negative,
      Binary64.ofInt (leadingBits x.coeff) = .infinity negative := by
    have sign := Binary64.hasSign_leadingBits x.coeff
    generalize Binary64.ofInt (leadingBits x.coeff) = y at infinite sign
    cases sign with
    | finite m e => exact absurd rfl infinite
    | infinity => exact ⟨_, rfl⟩
  rw [toBinary64?, leading]
  split
  · rfl
  split
  · obtain ⟨n, f, power, nonzero, -⟩ := Binary64.powNat_ten (k := x.exp.toNat) (by omega)
    rw [power, Binary64.mul, if_neg nonzero]
    rfl
  split
  · obtain ⟨n, f, power, -⟩ := Binary64.powNat_ten (k := (-x.exp).toNat) (by omega)
    rw [power]
    rfl
  · rfl

theorem Decimal.toBinary64?_of_coeff_eq_zero (zero : x.coeff = 0) :
    x.toBinary64? = some (.zero false) := by
  rw [toBinary64?, zero, exp_eq_zero zero]
  rfl

/-- The double of a decimal, if there is one, is finite. -/
theorem Decimal.exists_of_toBinary64? {y : Binary64} (view : x.toBinary64? = some y) :
    ∃ negative m e, y = .finite negative m e := by
  have finite := (Option.filter_eq_some_iff.mp view).2
  cases y with
  | finite negative m e => exact ⟨_, _, _, rfl⟩
  | nan | infinity _ => cases finite

/-- A decimal with a double is within the range of exponents, and so are its digits. -/
theorem Decimal.hasDouble_of_toBinary64? {y : Binary64} (view : x.toBinary64? = some y) :
    x.HasDouble ∧ x.exp ≤ 308 := by
  have range : ¬ (x.exp < -308 ∨ 308 < x.exp) := fun outside => by
    rw [toBinary64?_eq_none outside] at view
    cases view
  have digits : (Binary64.ofInt (leadingBits x.coeff)).isFinite := by
    by_contra infinite
    rw [toBinary64?_eq_none_of_infinite infinite] at view
    cases view
  exact ⟨⟨by omega, digits⟩, by omega⟩

theorem Decimal.toBinary64_eq (x : Decimal) :
    (Number.decimal x).toBinary64 = x.toBinary64?.getD (.infinity (x.coeff < 0)) :=
  rfl

/-- The double of a decimal, if there is one, is its leading bits times a positive double. -/
theorem Decimal.hasSign_of_toBinary64? {y : Binary64} (view : x.toBinary64? = some y) :
    Binary64.HasSign (x.coeff < 0) y := by
  have leading := Binary64.hasSign_leadingBits x.coeff
  obtain ⟨scaled, -⟩ := Option.filter_eq_some_iff.mp view
  split at scaled
  · cases scaled
    exact leading
  split at scaled
  · rename_i upward
    obtain ⟨n, f, power, nonzero, -⟩ := Binary64.powNat_ten (k := x.exp.toNat) (by omega)
    cases scaled
    rw [power]
    exact leading.mul nonzero f
  split at scaled
  · rename_i downward
    obtain ⟨n, f, power, nonzero, -⟩ := Binary64.powNat_ten (k := (-x.exp).toNat) (by omega)
    cases scaled
    rw [power]
    exact leading.div nonzero f
  · cases scaled

/-- What a decimal counts as next to an infinity has the sign of the decimal. -/
theorem Decimal.hasSign_toBinary64 (x : Decimal) :
    Binary64.HasSign (x.coeff < 0) (Number.decimal x).toBinary64 := by
  rw [toBinary64_eq]
  cases view : x.toBinary64? with
  | none => exact .infinity
  | some y => exact hasSign_of_toBinary64? view

/-- A decimal that is no integer of its digits is scaled by a power of ten: its double is that of a
ratio. -/
def Decimal.IsRoundedRatio (x : Decimal) : Prop :=
  ∃ num den : ℕ, den ≠ 0 ∧ (num : ℚ) / den ≤ 12 * |x.toRat| ∧
    x.toBinary64? = (some (Binary64.ofRatio (x.coeff < 0) num den)).filter Binary64.isFinite

theorem Decimal.isRoundedRatio_of_exp_pos (nonzero : x.coeff ≠ 0)
    (digits : (Binary64.ofInt (leadingBits x.coeff)).isFinite)
    (least : 1 ≤ x.exp) (most : x.exp ≤ 308) : x.IsRoundedRatio := by
  obtain ⟨m, e, leading, left, magnitude⟩ := Binary64.exists_ofInt_leadingBits nonzero digits
  obtain ⟨n, f, power, right, -, scale⟩ := Binary64.powNat_ten (k := x.exp.toNat) (by omega)
  obtain ⟨num, den, -, denominator, ratio, product⟩ :=
    Binary64.mul_eq_ofRatio (x.coeff < 0) false left e right f
  have units : x.exp ≠ 0 := by omega
  rw [← zpow_natCast, Int.toNat_of_nonneg (by omega)] at scale
  refine ⟨num, den, denominator, ?_, ?_⟩
  · calc (num : ℚ) / den = m * 2 ^ e * (n * 2 ^ f) := ratio
      _ ≤ 6 * x.coeff.natAbs * (2 * 10 ^ x.exp) := by gcongr
      _ = 12 * |x.toRat| := by rw [abs_toRat]; ring
  · rw [toBinary64?, if_neg units, if_pos ⟨least, most⟩, leading, power, product, Bool.bne_false]

theorem Decimal.isRoundedRatio_of_exp_neg (nonzero : x.coeff ≠ 0)
    (digits : (Binary64.ofInt (leadingBits x.coeff)).isFinite)
    (least : -308 ≤ x.exp) (most : x.exp ≤ -1) : x.IsRoundedRatio := by
  obtain ⟨m, e, leading, left, magnitude⟩ := Binary64.exists_ofInt_leadingBits nonzero digits
  obtain ⟨n, f, power, right, scale, -⟩ := Binary64.powNat_ten (k := (-x.exp).toNat) (by omega)
  obtain ⟨num, den, -, denominator, ratio, quotient⟩ :=
    Binary64.div_eq_ofRatio (x.coeff < 0) false left e right f
  have units : x.exp ≠ 0 := by omega
  have upward : ¬ (1 ≤ x.exp ∧ x.exp ≤ 308) := by omega
  rw [← zpow_natCast, Int.toNat_of_nonneg (by omega)] at scale
  refine ⟨num, den, denominator, ?_, ?_⟩
  · calc (num : ℚ) / den = m * 2 ^ e / (n * 2 ^ f) := ratio
      _ ≤ 6 * x.coeff.natAbs / (10 ^ (-x.exp) / 2) :=
        div_le_div₀ (by positivity) magnitude (by positivity) (by linarith)
      _ = 12 * |x.toRat| := by
        rw [abs_toRat, zpow_neg]
        field_simp
        norm_num
  · rw [toBinary64?, if_neg units, if_neg upward, if_pos ⟨least, most⟩, leading, power, quotient,
      Bool.bne_false]

theorem Decimal.exp_le_of_abs_le (nonzero : x.coeff ≠ 0) {k : ℤ} (bounded : |x.toRat| ≤ 10 ^ k) :
    x.exp ≤ k := by
  have one : (1 : ℚ) ≤ x.coeff.natAbs := by
    exact_mod_cast Nat.one_le_iff_ne_zero.mpr (Int.natAbs_ne_zero.mpr nonzero)
  have unit : (0 : ℚ) ≤ 10 ^ x.exp := by positivity
  rw [abs_toRat] at bounded
  exact (zpow_le_zpow_iff_right₀ (by norm_num)).mp ((le_mul_of_one_le_left unit one).trans bounded)

/-- The double of a decimal is finite, and of a magnitude not much greater. -/
theorem Decimal.exists_toBinary64? (bounded : |x.toRat| ≤ 10 ^ 300) (kept : x.HasDouble) :
    ∃ m e, x.toBinary64? = some (.finite (x.coeff < 0) m e) ∧
      (m : ℚ) * 2 ^ e ≤ 24 * |x.toRat| + 1 := by
  by_cases zero : x.coeff = 0
  · refine ⟨0, -1074, ?_, ?_⟩
    · rw [toBinary64?_of_coeff_eq_zero zero, zero]
      rfl
    · rw [Nat.cast_zero, zero_mul]
      positivity
  obtain ⟨place, digits⟩ := kept
  by_cases units : x.exp = 0
  · obtain ⟨m, e, leading, left, magnitude⟩ := Binary64.exists_ofInt_leadingBits zero digits
    refine ⟨m, e, by rw [toBinary64?, if_pos units, leading]; rfl, ?_⟩
    rw [abs_toRat, units, zpow_zero, mul_one]
    linarith
  have most : x.exp ≤ 300 := exp_le_of_abs_le zero bounded
  have scaled : x.IsRoundedRatio := by
    by_cases upward : 1 ≤ x.exp
    · exact isRoundedRatio_of_exp_pos zero digits upward (by omega)
    · exact isRoundedRatio_of_exp_neg zero digits place (by omega)
  obtain ⟨num, den, denominator, ratio, view⟩ := scaled
  have high : (num : ℚ) / den < 2 ^ 1023 :=
    (ratio.trans (by gcongr; norm_num)).trans_lt (sixteen_mul_lt bounded)
  obtain ⟨m, e, rounded, magnitude⟩ :=
    Binary64.exists_ofRatio_of_lt (x.coeff < 0) denominator high
  exact ⟨m, e, by rw [view, rounded]; rfl, by linarith⟩

end Decimals

/-! ## Order and sums -/

/-- Whether a number lies between the infinities, and added to either of them or subtracted from it
makes no difference. -/
structure Number.IsBetweenInfinities (n : Number) : Prop where
  above : (Number.infinity true).compare? n = some .lt
  below : n.compare? (.infinity false) = some .lt
  different : ∀ negative, n.equal (.infinity negative) = false
  add : ∀ negative, (Number.infinity negative).add n = .infinity negative
  sub : ∀ negative, (Number.infinity negative).sub n = .infinity negative

section Order

variable {x : Decimal}

theorem Number.isBetweenInfinities_of_finite {negative : Bool} {m : ℕ} {e : ℤ}
    (view : (Number.decimal x).toBinary64 = .finite negative m e) :
    (Number.decimal x).IsBetweenInfinities where
  above := by
    change (Binary64.infinity true).compare? (Number.decimal x).toBinary64 = some .lt
    rw [view]
    rfl
  below := by
    change (Number.decimal x).toBinary64.compare? (.infinity false) = some .lt
    rw [view]
    rfl
  different side := by
    change decide ((Number.decimal x).toBinary64.compare? (.infinity side) = some .eq) = false
    rw [view]
    cases side <;> rfl
  add side := by
    change Number.ofBinary64 ((Binary64.infinity side).add (Number.decimal x).toBinary64) = _
    rw [view]
    rfl
  sub side := by
    change Number.ofBinary64 ((Binary64.infinity side).add (Number.decimal x).toBinary64.neg) = _
    rw [view]
    rfl

/-- A decimal without a double is equal to the infinity of its sign. -/
theorem Number.equal_infinity (none : x.toBinary64? = none) :
    (Number.decimal x).equal (.infinity (x.coeff < 0)) := by
  change decide ((Number.decimal x).toBinary64.compare? (.infinity (x.coeff < 0)) = some .eq) = true
  rw [Decimal.toBinary64_eq, none, Option.getD_none, Binary64.compare?]
  simp

/-- Of the decimals of magnitude up to `10 ^ 300`, just those lie between the infinities that have an
exponent of at least -308 and digits of which the double is finite, as it is for up to 300 digits.
The others are equal to the infinities of their signs. -/
theorem Number.isBetweenInfinities_iff (bounded : |x.toRat| ≤ 10 ^ 300) :
    ((Number.decimal x).IsBetweenInfinities ↔ x.HasDouble) ∧
      (¬ x.HasDouble → (Number.decimal x).equal (.infinity (x.coeff < 0))) := by
  have others (lost : ¬ x.HasDouble) : (Number.decimal x).equal (.infinity (x.coeff < 0)) := by
    apply equal_infinity
    rcases not_and_or.mp lost with place | digits
    · exact Decimal.toBinary64?_eq_none (.inl (not_le.mp place))
    · exact Decimal.toBinary64?_eq_none_of_infinite digits
  refine ⟨⟨fun between => ?_, fun kept => ?_⟩, others⟩
  · by_contra lost
    have same := others lost
    rw [between.different] at same
    exact Bool.false_ne_true same
  · obtain ⟨m, e, double, -⟩ := Decimal.exists_toBinary64? bounded kept
    have view : (Number.decimal x).toBinary64 = .finite (x.coeff < 0) m e := by
      rw [Decimal.toBinary64_eq, double, Option.getD_some]
    exact isBetweenInfinities_of_finite view

/-- Decimals with seventeen digits, both far within the range of doubles, on either side of the
border. -/
theorem Number.isBetweenInfinities_at_border :
    let near := Decimal.ofScaled 12345678901234567 (-308)
    let far := Decimal.ofScaled 12345678901234567 (-309)
    (|near.toRat| ≤ 10 ^ 300 ∧ (Number.decimal near).IsBetweenInfinities) ∧
      |far.toRat| ≤ 10 ^ 300 ∧ ¬ (Number.decimal far).IsBetweenInfinities := by
  intro near far
  have bounded : ∀ exp : ℤ, exp ≤ 0 →
      |(Decimal.ofScaled 12345678901234567 exp).toRat| ≤ 10 ^ 300 := by
    intro exp small
    have unit : (0 : ℚ) < 10 ^ exp := by positivity
    have below : (10 : ℚ) ^ exp ≤ 1 := zpow_le_one_of_nonpos₀ (by norm_num) small
    rw [Decimal.toRat_ofScaled, abs_mul, abs_of_pos unit]
    calc |((12345678901234567 : ℤ) : ℚ)| * 10 ^ exp ≤ 10 ^ 17 * 1 := by
          gcongr
          norm_num
      _ = 10 ^ 17 := mul_one _
      _ ≤ 10 ^ 300 := pow_le_pow_right₀ (by norm_num) (by decide)
  refine ⟨⟨bounded _ (by decide), ?_⟩, bounded _ (by decide), ?_⟩
  · exact (isBetweenInfinities_iff (bounded _ (by decide))).1.mpr (by decide +kernel)
  · rw [(isBetweenInfinities_iff (bounded _ (by decide))).1]
    decide +kernel

/-- A decimal in the range of doubles that is equal to an infinity, and cancels the other one. -/
theorem Number.not_isBetweenInfinities_of_low_exponent :
    let x := Decimal.ofScaled 12345678901234567 (-316)
    0 < x.toRat ∧ x.toRat < 1 ∧ (Number.decimal x).equal (.infinity false) = true ∧
      (Number.infinity true).add (.decimal x) = .nan ∧
      ¬ (Number.decimal x).IsBetweenInfinities := by
  intro x
  have value : x.toRat = 12345678901234567 * 10 ^ (-316 : ℤ) := Decimal.toRat_ofScaled _ _
  have same : (Number.decimal x).equal (.infinity false) = true := by decide +kernel
  refine ⟨by rw [value]; positivity, ?_, same, by decide +kernel, fun between => ?_⟩
  · rw [value]
    calc (12345678901234567 : ℚ) * 10 ^ (-316 : ℤ) < 10 ^ (17 : ℤ) * 10 ^ (-316 : ℤ) := by
          gcongr
          norm_num
      _ = 10 ^ (-299 : ℤ) := by rw [← zpow_add₀ (by norm_num)]; rfl
      _ ≤ 1 := zpow_le_one_of_nonpos₀ (by norm_num) (by decide)
  · rw [between.different] at same
    exact Bool.false_ne_true same

end Order

end Spreadsheet
