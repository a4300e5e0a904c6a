import Spreadsheet.Number.Basic
import Spreadsheet.Proofs.DecimalValues

/-!
# Integers among numbers

Which numbers are integers, and which of these have 64 bits. A decimal in normal form is an integer
just if its exponent is not negative (`Decimal.isInteger_iff`), and writing out its zeros makes its
coefficient no smaller. So an integer of 64 bits has a coefficient of 64 bits and an exponent of at
most eighteen, and the integer view of a number is exact: there is one for each integer of 64 bits,
and for nothing else (`Number.toInt64?_exact`).

The view can be computed in words, by products that are given up when they leave the words
(`Decimal.toWord?`). No product that is needed ever does (`Decimal.map_toInt_toWord?`).
-/

namespace Spreadsheet

section Integers

variable {x : Decimal} {k : ℤ}

/-- A decimal that is an integer has no digits behind the point. -/
theorem Decimal.eq_mul_pow_of_toRat_eq (value : x.toRat = k) :
    0 ≤ x.exp ∧ k = x.coeff * 10 ^ x.exp.toNat := by
  have whole : 0 ≤ x.exp := by
    by_contra fraction
    obtain ⟨places, behind⟩ : ∃ places : ℕ, x.exp = -((places + 1 : ℕ) : ℤ) :=
      ⟨(-x.exp).toNat - 1, by omega⟩
    have scaled : x.coeff = k * 10 ^ (places + 1) := by
      have unit : (10 : ℚ) ^ (places + 1) ≠ 0 := by positivity
      rw [toRat, behind, zpow_neg, zpow_natCast, ← div_eq_mul_inv, div_eq_iff unit] at value
      exact_mod_cast value
    have := x.normal
    rw [pow_succ, ← Int.mul_assoc] at scaled
    omega
  refine ⟨whole, ?_⟩
  have same : (k : ℚ) = x.coeff * 10 ^ x.exp.toNat := by
    rw [← value, toRat, ← zpow_natCast, Int.toNat_of_nonneg whole]
  exact_mod_cast same

/-- A decimal without digits behind the point is an integer. -/
theorem Decimal.toRat_eq_of_exp_nonneg (whole : 0 ≤ x.exp) :
    x.toRat = ((x.coeff * 10 ^ x.exp.toNat : ℤ) : ℚ) := by
  rw [toRat, ← Int.toNat_of_nonneg whole, zpow_natCast]
  push_cast [Int.toNat_natCast]
  rfl

theorem Decimal.isInteger_iff : x.isInteger ↔ ∃ n : ℤ, x.toRat = n := by
  rw [isInteger, decide_eq_true_iff]
  exact ⟨fun whole => ⟨_, toRat_eq_of_exp_nonneg whole⟩,
    fun ⟨_, value⟩ => (eq_mul_pow_of_toRat_eq value).1⟩

/-- A decimal that is an integer is found as such if it has 64 bits. -/
theorem Decimal.toInt64?_of_toRat_eq (value : x.toRat = k) :
    x.toInt64? = if inInt64 k then some k else none := by
  obtain ⟨whole, rfl⟩ := eq_mul_pow_of_toRat_eq value
  rw [toInt64?]
  by_cases few : x.exp ≤ 18
  · rw [if_pos ⟨whole, few⟩, Option.filter_some]
  · have large : inInt64 (x.coeff * 10 ^ x.exp.toNat) = false := by
      have nonzero : x.coeff ≠ 0 := by
        intro zero
        have := x.normal
        omega
      have size : 10 ^ 19 ≤ (x.coeff * 10 ^ x.exp.toNat).natAbs := by
        rw [Int.natAbs_mul, Int.natAbs_pow]
        calc 10 ^ 19 ≤ 10 ^ x.exp.toNat := Nat.pow_le_pow_right (by decide) (by omega)
          _ ≤ x.coeff.natAbs * 10 ^ x.exp.toNat :=
            Nat.le_mul_of_pos_left _ (Int.natAbs_pos.mpr nonzero)
      generalize x.coeff * 10 ^ x.exp.toNat = n at size
      rw [inInt64, Bool.and_eq_false_iff, decide_eq_false_iff_not, decide_eq_false_iff_not]
      omega
    rw [if_neg fun inside => few inside.2, large]
    rfl

/-- A decimal with digits behind the point is not found as an integer. -/
theorem Decimal.toInt64?_of_forall_ne (fraction : ∀ n : ℤ, x.toRat ≠ n) : x.toInt64? = none := by
  rw [toInt64?]
  exact if_neg fun places => fraction _ (toRat_eq_of_exp_nonneg places.1)

end Integers

/-! ## Words of 64 bits -/

/-- The word of an integer in range. -/
def wordOfInt? (n : ℤ) : Option Int64 :=
  if inInt64 n then some (.ofInt n) else none

/-- The product of two words, if it is a word. -/
def mulSignedWords? (a b : Int64) : Option Int64 :=
  wordOfInt? (a.toInt * b.toInt)

/-- The power of a word, if it is a word. -/
def powSignedWord? (base : Int64) (k : ℕ) : Option Int64 :=
  wordOfInt? (base.toInt ^ k)

/-- The integer that a decimal is, computed in words. The coefficient has to be a word, and so does
the power of ten by which it is multiplied or divided. -/
def Decimal.toWord? (x : Decimal) : Option Int64 :=
  if x.isInteger then do
    let coeff ← wordOfInt? x.coeff
    if x.exp = 0 then some coeff
    else if 1 ≤ x.exp ∧ x.exp ≤ 18 then
      let scale ← powSignedWord? 10 x.exp.toNat
      mulSignedWords? coeff scale
    else if -18 ≤ x.exp ∧ x.exp ≤ -1 then
      let divisor ← powSignedWord? 10 (-x.exp).toNat
      if coeff % divisor = 0 then some (coeff / divisor) else none
    else none
  else none

/-- The integer that a number is, computed in words. -/
def Number.toWord? : Number → Option Int64
  | .decimal x => x.toWord?
  | _ => none

section Words

variable {x : Decimal} {n : ℤ}

theorem inInt64_iff : inInt64 n ↔ -2 ^ 63 ≤ n ∧ n < 2 ^ 63 := by
  rw [inInt64, Bool.and_eq_true, decide_eq_true_iff, decide_eq_true_iff]

theorem inInt64_toInt (a : Int64) : inInt64 a.toInt :=
  inInt64_iff.mpr ⟨a.le_toInt, a.toInt_lt⟩

theorem toInt_ofInt_of_inInt64 (small : inInt64 n) : (Int64.ofInt n).toInt = n :=
  Int64.toInt_ofInt_of_le (inInt64_iff.mp small).1 (inInt64_iff.mp small).2

theorem map_toInt_wordOfInt? (n : ℤ) :
    (wordOfInt? n).map Int64.toInt = (some n).filter inInt64 := by
  rw [wordOfInt?, Option.filter_some]
  split
  next small => rw [Option.map_some, toInt_ofInt_of_inInt64 small]
  next => rfl

/-- A product with a positive factor is a word only if the other factor is one. -/
theorem inInt64_of_inInt64_mul {scale : ℤ} (positive : 0 < scale) (small : inInt64 (n * scale)) :
    inInt64 n := by
  rw [inInt64_iff] at small ⊢
  constructor
  · by_contra below
    nlinarith
  · by_contra above
    nlinarith

/-- Powers of ten up to the eighteenth are words. -/
theorem inInt64_pow_ten {k : ℕ} (few : k ≤ 18) : inInt64 (10 ^ k) := by
  have size : (10 : ℤ) ^ k ≤ 10 ^ 18 := pow_le_pow_right₀ (by decide) few
  have positive : (0 : ℤ) < 10 ^ k := by positivity
  exact inInt64_iff.mpr (by omega)

theorem powSignedWord?_ten {k : ℕ} (few : k ≤ 18) :
    powSignedWord? 10 k = some (.ofInt (10 ^ k)) := by
  have ten : (10 : Int64).toInt = 10 := rfl
  rw [powSignedWord?, ten, wordOfInt?, if_pos (inInt64_pow_ten few)]

theorem mulSignedWords?_ofInt {k : ℕ} (small : inInt64 n) (few : k ≤ 18) :
    mulSignedWords? (.ofInt n) (.ofInt (10 ^ k)) = wordOfInt? (n * 10 ^ k) := by
  rw [mulSignedWords?, toInt_ofInt_of_inInt64 small, toInt_ofInt_of_inInt64 (inInt64_pow_ten few)]

/-- What is computed in words is the integer that the decimal is: no product that leaves the words
is needed for an integer inside them. -/
theorem Decimal.map_toInt_toWord? (x : Decimal) : x.toWord?.map Int64.toInt = x.toInt64? := by
  rw [toWord?, toInt64?, isInteger]
  by_cases whole : 0 ≤ x.exp
  · rw [decide_eq_true whole, if_pos rfl]
    rcases eq_or_ne x.exp 0 with units | tens
    · have alone : x.coeff * 10 ^ x.exp.toNat = x.coeff := by rw [units]; exact mul_one _
      rw [if_pos (by omega), alone, ← map_toInt_wordOfInt?]
      cases wordOfInt? x.coeff with
      | none => rfl
      | some coeff => exact congrArg _ (if_pos units)
    by_cases few : x.exp ≤ 18
    · rw [if_pos ⟨whole, few⟩, ← map_toInt_wordOfInt?]
      by_cases small : inInt64 x.coeff
      · have coeff : wordOfInt? x.coeff = some (.ofInt x.coeff) := if_pos small
        have places : x.exp.toNat ≤ 18 := by omega
        rw [coeff, Option.bind_eq_bind, Option.bind_some, if_neg tens,
          if_pos ⟨by omega, few⟩, powSignedWord?_ten places, Option.bind_some,
          mulSignedWords?_ofInt small places]
      · have large : ¬ inInt64 (x.coeff * 10 ^ x.exp.toNat) :=
          fun product => small (inInt64_of_inInt64_mul (by positivity) product)
        rw [wordOfInt?, if_neg small, wordOfInt?, if_neg large]
        rfl
    · rw [if_neg fun places => few places.2]
      cases wordOfInt? x.coeff with
      | none => rfl
      | some coeff =>
        rw [Option.bind_eq_bind, Option.bind_some, if_neg tens, if_neg fun places => few places.2,
          if_neg fun places => by omega]
        rfl
  · rw [decide_eq_false whole, if_neg Bool.false_ne_true, if_neg fun places => whole places.1]
    rfl

end Words

/-! ## Numbers -/

/-- The value of a number that has one. -/
def Number.toRat? : Number → Option ℚ
  | .decimal x => some x.toRat
  | _ => none

/-- The integer view of a number is its value, if that is an integer of 64 bits. -/
theorem Number.toInt64?_eq_some_iff {x : Number} {n : ℤ} :
    x.toInt64? = some n ↔ inInt64 n ∧ x.toRat? = some (n : ℚ) := by
  cases x with
  | decimal x =>
    by_cases integer : ∃ k : ℤ, x.toRat = k
    · obtain ⟨k, value⟩ := integer
      rw [toInt64?, Decimal.toInt64?_of_toRat_eq value, toRat?, value, Option.some_inj,
        Int.cast_inj]
      constructor
      · intro found
        split at found
        next small =>
          cases found
          exact ⟨small, rfl⟩
        next => cases found
      · rintro ⟨small, rfl⟩
        exact if_pos small
    · have fraction : ∀ k : ℤ, x.toRat ≠ k := fun k value => integer ⟨k, value⟩
      rw [toInt64?, Decimal.toInt64?_of_forall_ne fraction, toRat?, Option.some_inj]
      exact iff_of_false (Option.some_ne_none n).symm fun found => fraction n found.2
  | infinity _ | nan =>
    have none_found : (none : Option ℚ) ≠ some (n : ℚ) := (Option.some_ne_none _).symm
    exact iff_of_false (Option.some_ne_none n).symm fun found => none_found found.2

/-- An integer of 64 bits has too few digits to be rounded. -/
theorem Number.toRat?_ofInt {n : ℤ} (small : inInt64 n) : (ofInt n).toRat? = some (n : ℚ) := by
  have few : (Decimal.ofInt n).coeff.natAbs < 10 ^ Decimal.precision := by
    have digits : (Decimal.ofInt n).coeff.natAbs ≤ n.natAbs := Decimal.natAbs_coeff_ofScaled_le n 0
    have size : n.natAbs ≤ 2 ^ 63 := by
      have range := inInt64_iff.mp small
      omega
    calc (Decimal.ofInt n).coeff.natAbs ≤ 2 ^ 63 := digits.trans size
      _ < 10 ^ Decimal.precision := by decide
  rw [ofInt, Decimal.round_of_lt few, toRat?, Decimal.toRat_ofInt]

theorem Number.isInteger_iff {x : Number} : x.isInteger ↔ ∃ n : ℤ, x.toRat? = some (n : ℚ) := by
  cases x with
  | decimal x => simp only [isInteger, toRat?, Option.some_inj, Decimal.isInteger_iff]
  | infinity _ | nan =>
    refine iff_of_false Bool.false_ne_true ?_
    rintro ⟨_, value⟩
    cases value

theorem Number.map_toInt_toWord? (x : Number) : x.toWord?.map Int64.toInt = x.toInt64? := by
  cases x with
  | decimal x => exact x.map_toInt_toWord?
  | infinity _ | nan => rfl

/-- The integer view of numbers is exact. It is the value of a number just if that is an integer of
64 bits, both ends of their range included; each of these integers comes back from its number; and
there is none for infinite and undefined numbers, for fractions and for integers out of range, and
only for them. Computed in words it is the same. -/
theorem Number.toInt64?_exact (x : Number) :
    (∀ n : Int64, x.toInt64? = some n.toInt ↔ x.toRat? = some (n.toInt : ℚ)) ∧
      (∀ n : Int64, (ofInt n.toInt).toInt64? = some n.toInt) ∧
      (x.toInt64? = none ↔
        x.isFinite = false ∨ x.isInteger = false ∨
          ∃ n : ℤ, x.toRat? = some (n : ℚ) ∧ (n < -2 ^ 63 ∨ 2 ^ 63 ≤ n)) ∧
      (x.isInteger ↔ ∃ n : ℤ, x.toRat? = some (n : ℚ)) ∧
      x.toWord?.map Int64.toInt = x.toInt64? := by
  refine ⟨fun n => ?_, fun n => ?_, ?_, isInteger_iff, map_toInt_toWord? x⟩
  · rw [toInt64?_eq_some_iff]
    exact and_iff_right (inInt64_toInt n)
  · exact toInt64?_eq_some_iff.mpr ⟨inInt64_toInt n, toRat?_ofInt (inInt64_toInt n)⟩
  · rw [Option.eq_none_iff_forall_ne_some]
    constructor
    · intro none_found
      by_cases integer : x.isInteger
      · obtain ⟨n, value⟩ := isInteger_iff.mp integer
        have outside : ¬ inInt64 n := fun small =>
          none_found n (toInt64?_eq_some_iff.mpr ⟨small, value⟩)
        rw [inInt64_iff] at outside
        exact .inr (.inr ⟨n, value, by omega⟩)
      · exact .inr (.inl (Bool.eq_false_iff.mpr integer))
    · intro missing n found
      obtain ⟨small, value⟩ := toInt64?_eq_some_iff.mp found
      rcases missing with infinite | fraction | ⟨k, value', outside⟩
      · cases x with
        | decimal x => cases infinite
        | infinity _ | nan => cases value
      · exact Bool.eq_false_iff.mp fraction (isInteger_iff.mpr ⟨n, value⟩)
      · rw [value, Option.some_inj, Int.cast_inj] at value'
        have range := inInt64_iff.mp small
        omega

end Spreadsheet
