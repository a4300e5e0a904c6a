import Mathlib.RingTheory.Int.Basic
import Spreadsheet.Proofs.ExactArithmetic
import Spreadsheet.Proofs.Powers

/-!
# Exact powers

If a power has few digits, so have all lower powers of its base: a coefficient does not end in zero,
and neither do its powers (`Decimal.pow_emod_ten_ne_zero`), so they only grow. Hence every product
that repeated squaring uses is exact, and so is the power (`Decimal.toRat_powNat`). The last square is
not used, and may be rounded.
-/

namespace Spreadsheet

/-! ## Lower powers -/

section LowerPowers

variable {x : Decimal} {j k : ℕ}

/-- A power of a number that does not end in zero does not end in zero. -/
theorem Decimal.pow_emod_ten_ne_zero {c : ℤ} (reduced : c % 10 ≠ 0) (k : ℕ) : c ^ k % 10 ≠ 0 := by
  intro ends
  have ten : 10 ∣ c ^ k := Int.dvd_of_emod_eq_zero ends
  have two : (2 : ℤ) ∣ c := Int.Prime.dvd_pow' Nat.prime_two ((by decide : (2 : ℤ) ∣ 10).trans ten)
  have five : (5 : ℤ) ∣ c := Int.Prime.dvd_pow' Nat.prime_five ((by decide : (5 : ℤ) ∣ 10).trans ten)
  omega

theorem Decimal.toRat_pow (x : Decimal) (k : ℕ) :
    x.toRat ^ k = ((x.coeff ^ k : ℤ) : ℚ) * 10 ^ (x.exp * k) := by
  rw [toRat, mul_pow, Int.cast_pow, zpow_mul, zpow_natCast]

/-- If a power has few digits, its coefficient is short, for it has no zeros to lose. -/
theorem Decimal.natAbs_coeff_pow_lt (few : IsRepresentable (x.toRat ^ k)) :
    x.coeff.natAbs ^ k < 10 ^ precision := by
  rcases x.normal with reduced | ⟨zero, -⟩
  · let power : Decimal := ⟨x.coeff ^ k, x.exp * k, .inl (pow_emod_ten_ne_zero reduced k)⟩
    have value : power.toRat = x.toRat ^ k := (x.toRat_pow k).symm
    have short : (x.coeff ^ k).natAbs < 10 ^ precision := natAbs_coeff_lt (x := power) (by rwa [value])
    rwa [Int.natAbs_pow] at short
  · have unit : x.coeff.natAbs ^ k ≤ 1 ^ k := Nat.pow_le_pow_left (by omega) k
    rw [one_pow] at unit
    exact unit.trans_lt (by decide)

/-- Powers lower than one of few digits have few digits too. -/
theorem Decimal.isRepresentable_pow (few : IsRepresentable (x.toRat ^ k)) (lower : j ≤ k) :
    IsRepresentable (x.toRat ^ j) := by
  refine ⟨x.coeff ^ j, x.exp * j, ?_, x.toRat_pow j⟩
  rw [Int.natAbs_pow]
  have top := natAbs_coeff_pow_lt few
  rcases Nat.eq_zero_or_pos x.coeff.natAbs with zero | positive
  · have unit : x.coeff.natAbs ^ j ≤ 1 ^ j := Nat.pow_le_pow_left (by omega) j
    rw [one_pow] at unit
    exact unit.trans_lt (by decide)
  · exact (Nat.pow_le_pow_right positive lower).trans_lt top

end LowerPowers

/-! ## Repeated squaring -/

section Squaring

variable {q : ℚ} {fuel n i j k : ℕ} {x acc : Decimal}

/-- While the accumulator is `q ^ j`, the base `q ^ i` and `j + i * n` the exponent, the products that
are used are powers up to `q ^ k`, and exact. Of the base nothing is asked after the last of them. -/
theorem Decimal.toRat_powNat_go (few : ∀ j ≤ k, IsRepresentable (q ^ j)) (enough : n < 2 ^ fuel)
    (before : acc.toRat = q ^ j) (base : n ≠ 0 → x.toRat = q ^ i) (total : j + i * n = k) :
    (powNat.go fuel acc x n).toRat = q ^ k := by
  induction fuel generalizing acc x n i j with
  | zero =>
    obtain rfl : n = 0 := by omega
    rw [powNat.go, before, ← total, Nat.mul_zero, Nat.add_zero]
  | succ fuel ih =>
    rw [powNat.go]
    split
    next zero => rw [before, ← total, zero, Nat.mul_zero, Nat.add_zero]
    next more =>
      have value := base more
      have halves : i * n = 2 * i * (n / 2) + i * (n % 2) := by
        rw [Nat.mul_comm 2 i, Nat.mul_assoc, ← Nat.mul_add, Nat.div_add_mod]
      have rest : n / 2 < 2 ^ fuel := by
        rw [pow_succ] at enough
        omega
      rw [halves] at total
      -- The square is used only if a further binary digit of the exponent is left.
      have square : n / 2 ≠ 0 → (x.mul x).toRat = q ^ (2 * i) := by
        intro left
        have within : 2 * i ≤ 2 * i * (n / 2) := Nat.le_mul_of_pos_right _ (Nat.pos_of_ne_zero left)
        have power : x.toRat * x.toRat = q ^ (2 * i) := by rw [value, two_mul, pow_add]
        rw [toRat_mul (by rw [power]; exact few _ (by omega)), power]
      split
      next odd =>
        rw [odd, Nat.mul_one] at total
        have power : acc.toRat * x.toRat = q ^ (j + i) := by rw [before, value, pow_add]
        have product : (acc.mul x).toRat = q ^ (j + i) := by
          rw [toRat_mul (by rw [power]; exact few _ (by omega)), power]
        exact ih rest product square (by omega)
      next even =>
        rw [Nat.mod_two_ne_one.mp even, Nat.mul_zero, Nat.add_zero] at total
        exact ih rest before square total

/-- A power of few digits is computed exactly. -/
theorem Decimal.toRat_powNat (few : IsRepresentable (x.toRat ^ k)) :
    (x.powNat k).toRat = x.toRat ^ k := by
  have one : (ofInt 1).toRat = x.toRat ^ 0 := by rw [toRat_ofInt, pow_zero, Int.cast_one]
  exact toRat_powNat_go (fun _ lower => isRepresentable_pow few lower) Nat.lt_log2_self one
    (fun _ => (pow_one _).symm) (by omega)

end Squaring

/-! ## Powers with an integer exponent -/

section Powers

variable {x n : Decimal} {k : ℕ}

/-- A decimal without its sign. -/
def Decimal.magnitude (x : Decimal) : Decimal :=
  if x.coeff < 0 then x.neg else x

/-- Within the range, a power with a small integer exponent is multiplied out. -/
theorem Decimal.pow?_of_inRange {m : ℤ} (large : ¬ x.magnitude.IsPowerTooLarge n)
    (small : ¬ x.magnitude.IsPowerTooSmall n) (value : n.toRat = m) (few : isFactorCount m) :
    x.pow? n = .ok (x.powInt m) := by
  have exponent := toInt64?_of_isFactorCount value
  rw [if_pos few] at exponent
  unfold magnitude IsPowerTooLarge powerLog at large
  unfold magnitude IsPowerTooSmall powerLog at small
  simp only [pow?, if_neg large, if_neg small, exponent]

/-- A power with an exponent from 1 to 4096 is exact if it has at most as many digits as arithmetic
keeps and passes the check of its range, to which zero is not put. -/
theorem Number.pow?_exact (value : n.toRat = k) (positive : 1 ≤ k) (few : k ≤ 4096)
    (inRange : x.coeff ≠ 0 →
      ¬ x.magnitude.IsPowerTooLarge n ∧ ¬ x.magnitude.IsPowerTooSmall n)
    (digits : IsRepresentable (x.toRat ^ k)) :
    ∃ z : Decimal, (decimal x).pow? (.decimal n) = .ok (.decimal z) ∧ z.toRat = x.toRat ^ k := by
  have exponent : 0 < n.coeff := by
    rw [← Decimal.toRat_pos, value]
    exact_mod_cast positive
  rw [pow?, if_neg exponent.ne']
  by_cases zero : x.coeff = 0
  · refine ⟨.ofInt 0, by rw [if_pos zero, if_neg exponent.not_gt]; rfl, ?_⟩
    rw [Decimal.toRat_eq_zero.mpr zero, zero_pow (by omega), Decimal.toRat_ofInt, Int.cast_zero]
  · obtain ⟨large, small⟩ := inRange zero
    have whole : n.toRat = ((k : ℤ) : ℚ) := by rw [value, Int.cast_natCast]
    have count : Decimal.isFactorCount k := by
      rw [Decimal.isFactorCount, Int.natAbs_natCast, Bool.or_eq_true, decide_eq_true_iff]
      exact .inl few
    have power : x.powInt k = x.powNat k := by
      rw [Decimal.powInt, if_neg (by omega), Int.natAbs_natCast]
    refine ⟨x.powNat k, ?_, Decimal.toRat_powNat digits⟩
    rw [if_neg zero, Decimal.pow?_of_inRange large small whole count, power]
    rfl

/-- A cube of 49 digits. The fourth power, which is the square that is not used, has 65. -/
theorem Number.pow?_exact_cube :
    ∃ z : Decimal,
      (decimal (.ofInt (-12345678901234567))).pow? (.decimal (.ofInt 3)) = .ok (.decimal z) ∧
        z.toRat = (-12345678901234567) ^ 3 := by
  have base : (Decimal.ofInt (-12345678901234567)).toRat = -12345678901234567 := by
    rw [Decimal.toRat_ofInt]
    norm_num
  have digits : IsRepresentable ((Decimal.ofInt (-12345678901234567)).toRat ^ 3) :=
    ⟨(-12345678901234567) ^ 3, 0, by decide, by rw [base]; norm_num⟩
  rw [← base]
  exact pow?_exact (Decimal.toRat_ofInt 3) (by decide) (by decide)
    (fun _ => ⟨by decide +kernel, by decide +kernel⟩) digits

end Powers

end Spreadsheet
