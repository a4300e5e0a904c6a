import Mathlib.Algebra.Group.Int.Even
import Spreadsheet.Number.Power
import Spreadsheet.Proofs.Integers

/-!
# Powers of negative bases

A power with an integer exponent is computed by multiplication if the exponent is small, and then a
negated base gives the same power, negated if the exponent is odd (`Decimal.powInt_neg`). Other
integer exponents are treated like fractions: a positive base has a power and the negated one has
none, unless the logarithm of the power is out of range, where both answer alike
(`Number.pow?_neg`).
-/

namespace Spreadsheet

/-! ## Exponents -/

section Exponents

variable {x : Decimal} {k : ℤ}

theorem Decimal.toInt64?_of_isFactorCount (value : x.toRat = k) :
    x.toInt64?.filter isFactorCount = if isFactorCount k then some k else none := by
  rw [toInt64?_of_toRat_eq value]
  by_cases small : isFactorCount k
  · have inside : inInt64 k := by
      rw [isFactorCount, Bool.or_eq_true, decide_eq_true_iff, decide_eq_true_iff] at small
      rw [inInt64_iff]
      have : greatestFactorCount = 4096 := rfl
      omega
    rw [if_pos inside, if_pos small, Option.filter_some, if_pos small]
  · rw [if_neg small]
    split
    · rw [Option.filter_some, if_neg small]
    · rfl

end Exponents

/-! ## Products of a negated base -/

section Parity

variable {x : Decimal}

theorem Decimal.powNat_go_neg (fuel : ℕ) (acc x : Decimal) (n : ℕ) :
    powNat.go fuel acc.neg x n = (powNat.go fuel acc x n).neg := by
  induction fuel generalizing acc x n with
  | zero => rfl
  | succ fuel ih =>
    rw [powNat.go, powNat.go]
    split
    · rfl
    · split
      · rw [neg_mul, ih]
      · rw [ih]

/-- After the first step it is the square of the base that is multiplied, so only the last binary
digit of the exponent sees the sign. -/
theorem Decimal.powNat_neg (x : Decimal) (n : ℕ) :
    x.neg.powNat n = if Even n then x.powNat n else (x.powNat n).neg := by
  have square : x.neg.mul x.neg = x.mul x := by
    rw [neg_mul, mul_neg, neg_neg]
  rw [powNat, powNat, powNat.go, powNat.go, square]
  by_cases zero : n = 0
  · rw [if_pos zero, if_pos zero, zero]
    rfl
  · rw [if_neg zero, if_neg zero]
    by_cases even : Even n
    · have bit : ¬ n % 2 = 1 := by rw [Nat.even_iff.mp even]; decide
      rw [if_pos even, if_neg bit, if_neg bit]
    · have bit : n % 2 = 1 := Nat.not_even_iff.mp even
      rw [if_neg even, if_pos bit, if_pos bit, mul_neg, powNat_go_neg]

theorem Decimal.powInt_neg (x : Decimal) (k : ℤ) :
    x.neg.powInt k = if Even k then x.powInt k else (x.powInt k).neg := by
  rw [powInt, powInt, powNat_neg]
  by_cases even : Even k
  · rw [if_pos even, if_pos (Int.natAbs_even.mpr even)]
  · rw [if_neg even, if_neg (mt Int.natAbs_even.mp even), div_neg]
    split <;> rfl

end Parity

/-! ## Ranges -/

/-- The logarithm of a power of a positive decimal, to the working precision. -/
def Decimal.powerLog (x y : Decimal) : Decimal :=
  x.log.mul y

/-- A power of a positive decimal is too large to be computed. -/
def Decimal.IsPowerTooLarge (x y : Decimal) : Prop :=
  (Number.decimal (x.powerLog y)).toBinary64.compare? greatestLog = some .gt
deriving Decidable

/-- A power of a positive decimal is so small that it is taken for zero. -/
def Decimal.IsPowerTooSmall (x y : Decimal) : Prop :=
  (Number.decimal (x.powerLog y)).toBinary64.compare? greatestLog.neg = some .lt
deriving Decidable

section Powers

variable {x y n : Decimal} {k : ℤ}

/-- The power of a positive decimal. -/
theorem Decimal.pow?_of_pos (positive : 0 < x.coeff) (y : Decimal) :
    x.pow? y =
      if x.IsPowerTooLarge y then .error (.domain "power result out of range")
      else if x.IsPowerTooSmall y then .ok (.ofInt 0)
      else
        match y.toInt64?.filter isFactorCount with
        | some n => .ok (x.powInt n)
        | none => .ok (x.powerLog y).exponential := by
  have upright : ¬ x.coeff < 0 := positive.not_gt
  simp only [pow?, if_neg upright]
  rfl

/-- The power of its negative, for which the same ranges count. -/
theorem Decimal.pow?_of_neg (positive : 0 < x.coeff) (y : Decimal) :
    x.neg.pow? y =
      if x.IsPowerTooLarge y then .error (.domain "power result out of range")
      else if x.IsPowerTooSmall y then .ok (.ofInt 0)
      else
        match y.toInt64?.filter isFactorCount with
        | some n => .ok (x.neg.powInt n)
        | none => .error (.domain "negative base with non-integer exponent") := by
  have below : x.neg.coeff < 0 := neg_lt_zero.mpr positive
  simp only [pow?, if_pos below, neg_neg]
  rfl

/-- Powers of a negated base follow the parity of an integer exponent, also in failing, if the
exponent is small or the power out of range. Otherwise the positive base has a power, and the
negated one is refused as if the exponent were a fraction. -/
theorem Number.pow?_neg (positive : 0 < x.coeff) (value : n.toRat = k) :
    (Decimal.isFactorCount k ∨ x.IsPowerTooLarge n ∨ x.IsPowerTooSmall n →
      (decimal x.neg).pow? (.decimal n) =
        ((decimal x).pow? (.decimal n)).map (if Even k then id else Number.neg)) ∧
    (¬ (Decimal.isFactorCount k ∨ x.IsPowerTooLarge n ∨ x.IsPowerTooSmall n) →
      (∃ z, (decimal x).pow? (.decimal n) = .ok z) ∧
        (decimal x.neg).pow? (.decimal n) =
          .error (.domain "negative base with non-integer exponent")) := by
  by_cases zero : n.coeff = 0
  · have none : k = 0 := by
      rw [Decimal.toRat_eq_zero.mpr zero] at value
      exact_mod_cast value.symm
    subst none
    refine ⟨fun _ => ?_, fun many => absurd (.inl rfl) many⟩
    rw [if_pos (by decide), pow?, pow?, if_pos zero, if_pos zero]
    rfl
  have power {z : Decimal} (nonzero : z.coeff ≠ 0) :
      (decimal z).pow? (.decimal n) = (z.pow? n).map decimal := by
    rw [pow?, if_neg zero, if_neg nonzero]
  rw [power positive.ne', power (neg_lt_zero.mpr positive).ne, Decimal.pow?_of_pos positive,
    Decimal.pow?_of_neg positive, Decimal.toInt64?_of_isFactorCount value]
  by_cases large : x.IsPowerTooLarge n
  · refine ⟨fun _ => ?_, fun inside => absurd (.inr (.inl large)) inside⟩
    rw [if_pos large, if_pos large]
    rfl
  by_cases tiny : x.IsPowerTooSmall n
  · refine ⟨fun _ => ?_, fun inside => absurd (.inr (.inr tiny)) inside⟩
    rw [if_neg large, if_pos tiny, if_neg large, if_pos tiny]
    split <;> rfl
  rw [if_neg large, if_neg tiny, if_neg large, if_neg tiny]
  by_cases few : Decimal.isFactorCount k
  · refine ⟨fun _ => ?_, fun many => absurd (.inl few) many⟩
    simp only [few, if_true, Decimal.powInt_neg]
    split <;> rfl
  · refine ⟨fun outside => absurd outside (not_or.mpr ⟨few, not_or.mpr ⟨large, tiny⟩⟩), fun _ => ?_⟩
    rw [if_neg few]
    exact ⟨⟨_, rfl⟩, rfl⟩

/-- A cube, and a power of too many factors. -/
theorem Number.pow?_neg_cube_and_large :
    (∃ z, (decimal (.ofInt 2)).pow? (.decimal (.ofInt 3)) = .ok z ∧
      (decimal (.ofInt (-2))).pow? (.decimal (.ofInt 3)) = .ok z.neg) ∧
    (decimal (.ofInt (-1))).pow? (.decimal (.ofInt 4097)) =
      .error (.domain "negative base with non-integer exponent") := by
  have cube := (pow?_neg (x := .ofInt 2) (by decide) (Decimal.toRat_ofInt 3)).1 (.inl (by decide))
  have large := (pow?_neg (x := .ofInt 1) (by decide) (Decimal.toRat_ofInt 4097)).2 (by decide +kernel)
  exact ⟨⟨.ofInt 8, by decide +kernel, cube.trans (by decide +kernel)⟩, large.2⟩

/-- One has a power with an odd exponent, but its negative has none. -/
theorem Number.pow?_neg_one_large :
    (decimal (.ofInt 1)).pow? (.decimal (.ofInt 4097)) = .ok (.ofInt 1) ∧
      (decimal (.ofInt (-1))).pow? (.decimal (.ofInt 4097)) =
        .error (.domain "negative base with non-integer exponent") := by
  decide +kernel

end Powers

end Spreadsheet
