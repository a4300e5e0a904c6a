import Spreadsheet.Proofs.DecimalForms
import Spreadsheet.Proofs.Rounding

/-!
# Shortest decimals

The search for the shortest decimal of a double stops at the coarsest grid that has a point in the
rounding interval. An interval that is narrower than the grid of a decimal inside of it leads back
to that decimal (`RoundingInterval.Proper.shortest_eq`), and so does the double of a decimal of at
most fifteen digits (`Decimal.FewDigits.ofDouble_toBinary64?`).
-/

namespace Spreadsheet

/-! ## Scales -/

/-- The unit in which multiples of `2 ^ e` and of `10 ^ place` are both whole. -/
def commonUnit (e place : ℤ) : ℚ :=
  2 ^ (-e).toNat * 10 ^ (-place).toNat

theorem commonUnit_pos {e place : ℤ} : 0 < commonUnit e place := by
  rw [commonUnit]
  positivity

theorem binary_eq_mul_unit (n : ℕ) (e place : ℤ) :
    ((n * (2 ^ e.toNat * 10 ^ (-place).toNat) : ℕ) : ℚ) = n * 2 ^ e * commonUnit e place := by
  push_cast
  rw [pow_toNat two_ne_zero e, commonUnit]
  ring

theorem decimal_eq_mul_unit (n : ℕ) (e place : ℤ) :
    ((n * (10 ^ place.toNat * 2 ^ (-e).toNat) : ℕ) : ℚ) = n * 10 ^ place * commonUnit e place := by
  push_cast
  rw [pow_toNat (by norm_num) place, commonUnit]
  ring

/-! ## Grid points -/

/-- The number of steps of `10 ^ place` to the last grid point that is not beyond the value. -/
def RoundingInterval.below (i : RoundingInterval) (place : ℤ) : ℕ :=
  i.value * (2 ^ i.exponent.toNat * 10 ^ (-place).toNat) /
    (10 ^ place.toNat * 2 ^ (-i.exponent).toNat)

section GridPoints

variable {i : RoundingInterval} {place : ℤ} {coeff : ℕ} {x y z : ℚ}

theorem RoundingInterval.reaches_of_lt (below : x < y) : i.Reaches x y := by
  rw [Reaches]
  split
  · exact below.le
  · exact below

theorem RoundingInterval.Reaches.le (reached : i.Reaches x y) : x ≤ y := by
  rw [Reaches] at reached
  split at reached
  · exact reached
  · exact reached.le

theorem RoundingInterval.Reaches.trans_le (reached : i.Reaches x y) (le : y ≤ z) :
    i.Reaches x z := by
  rw [Reaches] at reached ⊢
  split at reached
  next closed => exact (if_pos closed).mpr (reached.trans le)
  next opened => exact (if_neg opened).mpr (reached.trans_le le)

theorem RoundingInterval.reaches_of_le_of_reaches (le : x ≤ y) (reached : i.Reaches y z) :
    i.Reaches x z := by
  rw [Reaches] at reached ⊢
  split at reached
  next closed => exact (if_pos closed).mpr (le.trans reached)
  next opened => exact (if_neg opened).mpr (le.trans_lt reached)

/-- Comparing in a common unit is comparing. -/
theorem RoundingInterval.reaches_iff {m n : ℕ} {unit : ℚ} (positive : 0 < unit)
    (left : (m : ℚ) = x * unit) (right : (n : ℚ) = y * unit) :
    i.reaches m n = true ↔ i.Reaches x y := by
  have le : m ≤ n ↔ x ≤ y := by
    rw [← Nat.cast_le (α := ℚ), left, right, mul_le_mul_iff_left₀ positive]
  have lt : m < n ↔ x < y := by
    rw [← Nat.cast_lt (α := ℚ), left, right, mul_lt_mul_iff_left₀ positive]
  rw [reaches, Reaches]
  split
  next => rw [decide_eq_true_iff, le]
  next => rw [decide_eq_true_iff, lt]

theorem RoundingInterval.below_le :
    (i.below place : ℚ) * 10 ^ place ≤ i.value * 2 ^ i.exponent := by
  have floor := Nat.div_mul_le_self (i.value * (2 ^ i.exponent.toNat * 10 ^ (-place).toNat))
    (10 ^ place.toNat * 2 ^ (-i.exponent).toNat)
  rwa [← below, ← Nat.cast_le (α := ℚ), decimal_eq_mul_unit, binary_eq_mul_unit,
    mul_le_mul_iff_left₀ commonUnit_pos] at floor

theorem RoundingInterval.lt_above :
    i.value * 2 ^ i.exponent < ((i.below place + 1 : ℕ) : ℚ) * 10 ^ place := by
  have scale : 0 < 10 ^ place.toNat * 2 ^ (-i.exponent).toNat := by positivity
  have next := (Nat.div_lt_iff_lt_mul scale).mp (Nat.lt_succ_self (i.below place))
  rwa [← Nat.cast_lt (α := ℚ), binary_eq_mul_unit, decimal_eq_mul_unit,
    mul_lt_mul_iff_left₀ commonUnit_pos] at next

/-- What is found on a grid: one of the two points next to the value, if it is in the interval. -/
theorem RoundingInterval.gridPoint?_cases (i : RoundingInterval) (place : ℤ) :
    (i.gridPoint? place = some (i.below place) ∧
        i.Reaches (i.lower * 2 ^ i.exponent) (i.below place * 10 ^ place)) ∨
      (i.gridPoint? place = some (i.below place + 1) ∧
        i.Reaches ((i.below place + 1 : ℕ) * 10 ^ place) (i.upper * 2 ^ i.exponent)) ∨
      (i.gridPoint? place = none ∧
        ¬ i.Reaches (i.lower * 2 ^ i.exponent) (i.below place * 10 ^ place) ∧
        ¬ i.Reaches ((i.below place + 1 : ℕ) * 10 ^ place) (i.upper * 2 ^ i.exponent)) := by
  have below := i.reaches_iff commonUnit_pos (binary_eq_mul_unit i.lower i.exponent place)
    (decimal_eq_mul_unit (i.below place) i.exponent place)
  have above := i.reaches_iff commonUnit_pos
    (decimal_eq_mul_unit (i.below place + 1) i.exponent place)
    (binary_eq_mul_unit i.upper i.exponent place)
  rw [← below, ← above]
  simp only [gridPoint?]
  rw [← RoundingInterval.below]
  generalize i.reaches _ _ = hasBelow
  generalize i.reaches _ _ = hasAbove
  match hasBelow, hasAbove with
  | true, true =>
    dsimp only
    split
    · exact .inl ⟨rfl, rfl⟩
    · exact .inr (.inl ⟨rfl, rfl⟩)
  | true, false => exact .inl ⟨rfl, rfl⟩
  | false, true => exact .inr (.inl ⟨rfl, rfl⟩)
  | false, false => exact .inr (.inr ⟨rfl, by decide, by decide⟩)

/-- Whether the value of the interval lies between its ends. -/
structure RoundingInterval.Proper (i : RoundingInterval) : Prop where
  lower : i.lower < i.value
  upper : i.value < i.upper

theorem RoundingInterval.proper_ofDouble {m : ℕ} {e : ℤ} (nonzero : m ≠ 0) :
    (ofDouble m e).Proper where
  lower := by
    simp only [ofDouble]
    split <;> omega
  upper := by
    simp only [ofDouble]
    omega

/-- A point that is found on a grid lies in the interval. -/
theorem RoundingInterval.Proper.contains_gridPoint (proper : i.Proper)
    (found : i.gridPoint? place = some coeff) : i.Contains (coeff * 10 ^ place) := by
  have scale : (0 : ℚ) < 2 ^ i.exponent := by positivity
  have lower : (i.lower : ℚ) * 2 ^ i.exponent < i.value * 2 ^ i.exponent :=
    mul_lt_mul_of_pos_right (by exact_mod_cast proper.lower) scale
  have upper : (i.value : ℚ) * 2 ^ i.exponent < i.upper * 2 ^ i.exponent :=
    mul_lt_mul_of_pos_right (by exact_mod_cast proper.upper) scale
  obtain ⟨same, inside⟩ | ⟨same, inside⟩ | ⟨missing, -⟩ := i.gridPoint?_cases place
  · cases found.symm.trans same
    exact ⟨inside, reaches_of_lt (i.below_le.trans_lt upper)⟩
  · cases found.symm.trans same
    exact ⟨reaches_of_lt (lower.trans i.lt_above), inside⟩
  · cases found.symm.trans missing

/-- A grid with a point in the interval has one that is found. -/
theorem RoundingInterval.exists_gridPoint (inside : i.Contains (coeff * 10 ^ place)) :
    ∃ found, i.gridPoint? place = some found := by
  have step : (0 : ℚ) < 10 ^ place := by positivity
  obtain ⟨same, -⟩ | ⟨same, -⟩ | ⟨-, no_below, no_above⟩ := i.gridPoint?_cases place
  · exact ⟨_, same⟩
  · exact ⟨_, same⟩
  · exfalso
    by_cases before : coeff ≤ i.below place
    · exact no_below (inside.1.trans_le
        (mul_le_mul_of_nonneg_right (by exact_mod_cast before) step.le))
    · exact no_above (reaches_of_le_of_reaches
        (mul_le_mul_of_nonneg_right (by exact_mod_cast not_le.mp before) step.le) inside.2)

end GridPoints

/-! ## The search -/

section Search

variable {i : RoundingInterval} {coeff : ℕ} {place start : ℤ} {x : Decimal}

/-- Two values in an interval are no further apart than its ends. -/
theorem RoundingInterval.Contains.sub_le {y z : ℚ} (left : i.Contains y) (right : i.Contains z) :
    y - z ≤ i.upper * 2 ^ i.exponent - i.lower * 2 ^ i.exponent :=
  sub_le_sub left.2.le right.1.le

/-- In an interval narrower than a grid, the decimal on the grid is the only point of it, also of
the coarser grids. -/
theorem RoundingInterval.Proper.gridPoint_unique (proper : i.Proper)
    (narrow : (i.upper : ℚ) * 2 ^ i.exponent - i.lower * 2 ^ i.exponent < 10 ^ place)
    (inside : i.Contains (coeff * 10 ^ place)) {coarser : ℤ} (le : place ≤ coarser) {other : ℕ}
    (found : i.gridPoint? coarser = some other) : other * 10 ^ (coarser - place).toNat = coeff := by
  have scale : (0 : ℚ) < 10 ^ place := by positivity
  have also : (other : ℚ) * 10 ^ coarser =
      ((other * 10 ^ (coarser - place).toNat : ℕ) : ℚ) * 10 ^ place := by
    push_cast
    rw [← zpow_natCast, mul_assoc, ← zpow_add₀ (by norm_num)]
    congr 2
    omega
  have point := proper.contains_gridPoint found
  rw [also] at point
  generalize other * 10 ^ (coarser - place).toNat = multiple at point ⊢
  have apart : ∀ {m n : ℕ}, i.Contains (m * 10 ^ place) → i.Contains (n * 10 ^ place) →
      m < n + 1 := by
    intro m n left right
    have near := (left.sub_le right).trans_lt narrow
    rw [← sub_mul, mul_lt_iff_lt_one_left scale] at near
    have : (m : ℚ) < n + 1 := by linarith
    exact_mod_cast this
  have := apart point inside
  have := apart inside point
  omega

/-- The search ends at a decimal in the interval, if the interval is narrower than the grid of the
decimal and the search begins at most as many places above it as it may go down. -/
theorem RoundingInterval.Proper.shortest_eq (proper : i.Proper) (reduced : coeff % 10 ≠ 0)
    (narrow : (i.upper : ℚ) * 2 ^ i.exponent - i.lower * 2 ^ i.exponent < 10 ^ place)
    (inside : i.Contains (coeff * 10 ^ place)) {fuel : ℕ} (above : place ≤ start)
    (reach : start ≤ place + fuel) : i.shortest fuel start = .ofScaled coeff place := by
  have here : i.gridPoint? place = some coeff := by
    obtain ⟨found, same⟩ := i.exists_gridPoint inside
    have point := proper.gridPoint_unique narrow inside le_rfl same
    rw [sub_self, Int.toNat_zero, pow_zero, mul_one] at point
    rw [same, point]
  induction fuel generalizing start with
  | zero =>
    obtain rfl : start = place := by push_cast at reach; omega
    rw [shortest, here]
    rfl
  | succ fuel ih =>
    by_cases at_place : start = place
    · rw [shortest, at_place, here]
    · have missing : i.gridPoint? start = none := by
        rw [Option.eq_none_iff_forall_not_mem]
        intro other found
        -- A point of a coarser grid would end in a zero.
        have point := proper.gridPoint_unique narrow inside above found
        obtain ⟨more, places⟩ : ∃ more, (start - place).toNat = more + 1 :=
          ⟨(start - place).toNat - 1, by omega⟩
        rw [places, pow_succ, ← mul_assoc] at point
        omega
      rw [shortest, missing]
      exact ih (by omega) (by push_cast at reach; omega)

end Search

/-! ## Where the search begins -/

/-- The place at which the search for a double below `2 ^ bits` begins. -/
def firstPlace (bits : ℤ) : ℤ :=
  bits * 30103 / 100000 + 1

section FirstPlace

variable {bits : ℤ}

/-- For doubles of moderate size the search begins at or above the first digit, and at most one
place above it. -/
theorem firstPlace_spec (low : -74 ≤ bits) (high : bits ≤ 125) :
    (2 : ℚ) ^ bits ≤ 10 ^ firstPlace bits ∧ (10 : ℚ) ^ (firstPlace bits - 1) ≤ 2 ^ (bits + 1) := by
  have table : ∀ i : Fin 200, let bits := (i : ℤ) - 74
      1 * (2 ^ bits.toNat * 10 ^ (-firstPlace bits).toNat) ≤
          1 * (10 ^ (firstPlace bits).toNat * 2 ^ (-bits).toNat) ∧
        1 * (10 ^ (firstPlace bits - 1).toNat * 2 ^ (-(bits + 1)).toNat) ≤
          1 * (2 ^ (bits + 1).toNat * 10 ^ (-(firstPlace bits - 1)).toNat) := by
    decide +kernel
  have entry := table ⟨(bits + 74).toNat, by omega⟩
  have index : (((bits + 74).toNat : ℕ) : ℤ) - 74 = bits := by omega
  simp only [index] at entry
  rwa [← Nat.cast_le (α := ℚ), ← Nat.cast_le (α := ℚ), binary_eq_mul_unit, decimal_eq_mul_unit,
    binary_eq_mul_unit, decimal_eq_mul_unit, mul_le_mul_iff_left₀ commonUnit_pos,
    mul_le_mul_iff_left₀ commonUnit_pos, Nat.cast_one, one_mul, one_mul, one_mul, one_mul] at entry

/-- The search for a double next to a value of at most fifteen digits, the last one at a place,
begins at most twenty places above that one. -/
theorem firstPlace_between (bits : ℤ) {place : ℤ} {x : ℚ} (low : -22 ≤ place) (high : place ≤ 22)
    (first : 10 ^ place ≤ x) (few : x < 10 ^ 15 * 10 ^ place) (below : x ≤ 2 ^ bits)
    (near : 2 ^ bits ≤ 3 * x) : place ≤ firstPlace bits ∧ firstPlace bits ≤ place + 20 := by
  have two : (1 : ℚ) < 2 := one_lt_two
  have ten : (1 : ℚ) < 10 := by norm_num
  have bits_low : -74 ≤ bits := by
    rw [← zpow_le_zpow_iff_right₀ two]
    calc (2 : ℚ) ^ (-74 : ℤ) ≤ 10 ^ (-22 : ℤ) := by norm_num
      _ ≤ 10 ^ place := zpow_le_zpow_right₀ ten.le low
      _ ≤ 2 ^ bits := first.trans below
  have bits_high : bits ≤ 125 := by
    rw [← zpow_le_zpow_iff_right₀ two]
    have greatest : (10 : ℚ) ^ place ≤ 10 ^ (22 : ℤ) := zpow_le_zpow_right₀ ten.le high
    calc (2 : ℚ) ^ bits ≤ 3 * (10 ^ 15 * 10 ^ (22 : ℤ)) := by linarith
      _ ≤ 2 ^ (125 : ℤ) := by norm_num
  obtain ⟨starts, ends⟩ := firstPlace_spec bits_low bits_high
  constructor
  · rw [← zpow_le_zpow_iff_right₀ ten]
    exact first.trans (below.trans starts)
  · have reach : firstPlace bits - 1 < place + 16 := by
      rw [← zpow_lt_zpow_iff_right₀ ten]
      calc (10 : ℚ) ^ (firstPlace bits - 1) ≤ 2 ^ (bits + 1) := ends
        _ = 2 ^ bits * 2 := zpow_add_one₀ two_ne_zero _
        _ < 10 ^ 16 * 10 ^ place := by linarith
        _ = 10 ^ (place + 16) := by rw [zpow_add₀ (by norm_num), mul_comm]; norm_cast
    omega

end FirstPlace

/-! ## Decimals of few digits -/

section FewDigits

variable {m coeff : ℕ} {e place : ℤ} {negative : Bool}

/-- The ends of the rounding interval of a double with a full significand, in its quarter units. -/
theorem RoundingInterval.ends_ofDouble (full : 2 ^ 52 ≤ m) (fits : m < 2 ^ 53) :
    (2 : ℚ) ^ 54 - 2 ≤ (ofDouble m e).lower ∧ ((ofDouble m e).upper : ℚ) ≤ 2 ^ 55 - 2 ∧
      ((ofDouble m e).upper : ℚ) - (ofDouble m e).lower ≤ 4 := by
  have lower : 4 * m - 2 ≤ (ofDouble m e).lower := by
    simp only [ofDouble]
    split <;> omega
  have least : 2 ^ 54 ≤ (ofDouble m e).lower + 2 := by omega
  have upper : (ofDouble m e).upper = 4 * m + 2 := rfl
  have greatest : (ofDouble m e).upper + 2 ≤ 2 ^ 55 := by omega
  have width : (ofDouble m e).upper ≤ (ofDouble m e).lower + 4 := by omega
  rw [← Nat.cast_le (α := ℚ)] at least greatest width
  push_cast at least greatest width
  exact ⟨by linarith, by linarith, by linarith⟩

/-- A decimal of at most fifteen digits and moderate size is the shortest one of every double that
it rounds to. -/
theorem Decimal.ofDouble_of_contains (full : 2 ^ 52 ≤ m) (fits : m < 2 ^ 53)
    (reduced : coeff % 10 ≠ 0) (few : coeff < 10 ^ 15) (low : -22 ≤ place) (high : place ≤ 22)
    (inside : (RoundingInterval.ofDouble m e).Contains (coeff * 10 ^ place)) :
    ofDouble negative m e =
      if negative then (ofScaled coeff place).neg else .ofScaled coeff place := by
  have proper := RoundingInterval.proper_ofDouble (m := m) (e := e) (by omega)
  obtain ⟨least, greatest, width⟩ := RoundingInterval.ends_ofDouble (e := e) full fits
  have exponent : (RoundingInterval.ofDouble m e).exponent = e - 2 := rfl
  have quarter : (0 : ℚ) < 2 ^ (e - 2) := by positivity
  have step : (0 : ℚ) < 10 ^ place := by positivity
  have first : (10 : ℚ) ^ place ≤ coeff * 10 ^ place :=
    le_mul_of_one_le_left step.le (by exact_mod_cast (by omega : 1 ≤ coeff))
  have digits : (coeff : ℚ) * 10 ^ place < 10 ^ 15 * 10 ^ place :=
    mul_lt_mul_of_pos_right (by exact_mod_cast few) step
  have lower := inside.1.le
  have upper := inside.2.le
  rw [exponent] at lower upper
  have above : (2 ^ 54 - 2) * 2 ^ (e - 2) ≤ (coeff : ℚ) * 10 ^ place :=
    (mul_le_mul_of_nonneg_right least quarter.le).trans lower
  have below : (coeff : ℚ) * 10 ^ place ≤ (2 ^ 55 - 2) * 2 ^ (e - 2) :=
    upper.trans (mul_le_mul_of_nonneg_right greatest quarter.le)
  have narrow : ((RoundingInterval.ofDouble m e).upper : ℚ) * 2 ^ (e - 2) -
      (RoundingInterval.ofDouble m e).lower * 2 ^ (e - 2) < 10 ^ place := by
    have : ((RoundingInterval.ofDouble m e).upper - (RoundingInterval.ofDouble m e).lower : ℚ) *
        2 ^ (e - 2) ≤ 4 * 2 ^ (e - 2) := mul_le_mul_of_nonneg_right width quarter.le
    linarith
  have scale : (2 : ℚ) ^ (e + 53) = 2 ^ 55 * 2 ^ (e - 2) := by
    rw [show e + 53 = 55 + (e - 2) by omega, zpow_add₀ two_ne_zero]
    norm_cast
  obtain ⟨start, reach⟩ := firstPlace_between (e + 53) low high first digits
    (by linarith) (by linarith)
  have size : (m.log2 : ℤ) + e + 1 = e + 53 := by
    have : m.log2 = 52 := (Nat.log2_eq_iff (by omega)).mpr ⟨full, fits⟩
    omega
  have found := proper.shortest_eq reduced narrow inside start reach
  rw [ofDouble, if_neg (by omega), size]
  exact congrArg (fun magnitude : Decimal => if negative then magnitude.neg else magnitude) found

end FewDigits

/-! ## Doubles of decimals -/

theorem leadingBits_of_lt {n : ℤ} (small : n.natAbs < 2 ^ 53) : leadingBits n = n := by
  have fits : n.natAbs.log2 + 1 - 53 = 0 := by
    by_cases zero : n.natAbs = 0
    · simp [zero]
    · have := (Nat.log2_lt zero).mpr small
      omega
  have none_cut : (if n = 0 then 0 else n.natAbs.log2 + 1 - 53) = 0 := by
    split
    · rfl
    · exact fits
  rw [leadingBits, none_cut]
  simp

section Exact

variable {m n : ℕ}

/-- An integer below `2 ^ 53` is the value of its double. -/
theorem Binary64.ofInt_exact {n : ℤ} (nonzero : n ≠ 0) (small : n.natAbs < 2 ^ 53) :
    ∃ m e, ofInt n = .finite (n < 0) m e ∧ (m : ℚ) * 2 ^ e = n.natAbs := by
  have value : ((n.natAbs : ℕ) : ℚ) / (1 : ℕ) = n.natAbs * 2 ^ (0 : ℤ) := by simp
  have high : ((n.natAbs : ℕ) : ℚ) / (1 : ℕ) < 2 ^ 1023 := by
    have : ((n.natAbs : ℕ) : ℚ) < 2 ^ 53 := by exact_mod_cast small
    rw [Nat.cast_one, div_one]
    exact this.trans (pow_lt_pow_right₀ one_lt_two (by decide))
  obtain ⟨m, e, rounded, same⟩ := ofRatio_exact (n < 0)
    (Int.natAbs_ne_zero.mpr nonzero) one_ne_zero value small (by decide) high
  exact ⟨m, e, rounded, by rw [same, Nat.cast_one, div_one]⟩

/-- Whether a double is a natural number. -/
def Binary64.isNat (x : Binary64) (n : ℕ) : Bool :=
  match x with
  | .finite false m e => m * 2 ^ e.toNat = n * 2 ^ (-e).toNat
  | _ => false

theorem Binary64.exists_of_isNat {x : Binary64} (whole : x.isNat n) :
    ∃ m e, x = .finite false m e ∧ (m : ℚ) * 2 ^ e = n := by
  match x with
  | .finite false m e =>
    refine ⟨m, e, rfl, ?_⟩
    have unit : (0 : ℚ) < 2 ^ (-e).toNat := by positivity
    have scaled : m * 2 ^ e.toNat = n * 2 ^ (-e).toNat := of_decide_eq_true whole
    rw [← Nat.cast_inj (R := ℚ)] at scaled
    push_cast at scaled
    rw [pow_toNat two_ne_zero e, ← mul_assoc] at scaled
    exact mul_right_cancel₀ unit.ne' scaled
  | .finite true _ _ | .infinity _ | .nan => cases whole

/-- The powers of ten up to the 22nd are the values of their doubles. -/
theorem Binary64.powNat_ten_exact {k : ℕ} (moderate : k ≤ 22) :
    ∃ m e, (ofInt 10).powNat k = .finite false m e ∧ (m : ℚ) * 2 ^ e = 10 ^ k := by
  have table : ∀ k : Fin 23, ((ofInt 10).powNat k).isNat (10 ^ k.val) := by
    decide +kernel
  obtain ⟨m, e, power, value⟩ := exists_of_isNat (table ⟨k, by omega⟩)
  exact ⟨m, e, power, by rw [value]; push_cast; rfl⟩

/-- The product of two doubles is a rounded ratio. -/
theorem Binary64.mul_eq_ofRatio (negative negative' : Bool) (left : m ≠ 0) (e : ℤ) (right : n ≠ 0)
    (f : ℤ) :
    ∃ num den : ℕ, num ≠ 0 ∧ den ≠ 0 ∧ (num : ℚ) / den = m * 2 ^ e * (n * 2 ^ f) ∧
      mul (.finite negative m e) (.finite negative' n f) =
        ofRatio (negative != negative') num den := by
  refine ⟨m * n * 2 ^ (e + f).toNat, 2 ^ (-(e + f)).toNat, by positivity, by positivity, ?_, rfl⟩
  push_cast
  rw [pow_toNat two_ne_zero (e + f), zpow_add₀ two_ne_zero]
  field_simp

/-- The quotient of two doubles is a rounded ratio. -/
theorem Binary64.div_eq_ofRatio (negative negative' : Bool) (left : m ≠ 0) (e : ℤ) (right : n ≠ 0)
    (f : ℤ) :
    ∃ num den : ℕ, num ≠ 0 ∧ den ≠ 0 ∧ (num : ℚ) / den = m * 2 ^ e / (n * 2 ^ f) ∧
      div (.finite negative m e) (.finite negative' n f) =
        ofRatio (negative != negative') num den := by
  refine ⟨m * 2 ^ (e - f).toNat, n * 2 ^ (f - e).toNat, by positivity, by positivity, ?_,
    if_neg right⟩
  have turned : f - e = -(e - f) := by ring
  push_cast
  rw [turned, pow_toNat two_ne_zero (e - f), zpow_sub₀ two_ne_zero]
  field_simp

end Exact

section Doubles

variable {x : Decimal}

/-- Whether a decimal has at most fifteen digits, the last one at most 22 places away from the
units. -/
structure Decimal.FewDigits (x : Decimal) : Prop where
  coeff : x.coeff.natAbs < 10 ^ 15
  low : -22 ≤ x.exp
  high : x.exp ≤ 22

theorem significand_ne_zero {m : ℕ} {e : ℤ} {y : ℚ} (value : m * 2 ^ e = y) (nonzero : y ≠ 0) :
    m ≠ 0 := by
  rintro rfl
  exact nonzero (by simpa using value.symm)

/-- The double of a decimal of few digits is the rounded decimal: both its digits and the power of
ten are doubles. -/
theorem Decimal.FewDigits.toBinary64?_eq (few : x.FewDigits) (nonzero : x.coeff ≠ 0) :
    ∃ num den : ℕ, num ≠ 0 ∧ den ≠ 0 ∧ (num : ℚ) / den = x.coeff.natAbs * 10 ^ x.exp ∧
      x.toBinary64? = (some (Binary64.ofRatio (x.coeff < 0) num den)).filter Binary64.isFinite := by
  have small : x.coeff.natAbs < 2 ^ 53 := few.coeff.trans (by norm_num)
  have low := few.low
  have high := few.high
  have digits : x.coeff.natAbs ≠ 0 := Int.natAbs_ne_zero.mpr nonzero
  have powers : ∀ k : ℕ, (10 : ℚ) ^ k ≠ 0 := fun k => by positivity
  obtain ⟨m, e, leading, value⟩ := Binary64.ofInt_exact nonzero small
  have left : m ≠ 0 := significand_ne_zero value (by exact_mod_cast digits)
  rw [toBinary64?, leadingBits_of_lt small]
  obtain units | positive | negative : x.exp = 0 ∨ 1 ≤ x.exp ∨ x.exp ≤ -1 := by omega
  · refine ⟨x.coeff.natAbs, 1, digits, one_ne_zero, ?_, ?_⟩
    · simp [units]
    · simp only [if_pos units]
      rfl
  · obtain ⟨n, f, power, ten⟩ := Binary64.powNat_ten_exact (k := x.exp.toNat) (by omega)
    obtain ⟨num, den, numerator, denominator, ratio, product⟩ := Binary64.mul_eq_ofRatio
      (x.coeff < 0) false left e (significand_ne_zero ten (powers _)) f
    refine ⟨num, den, numerator, denominator, ?_, ?_⟩
    · rw [ratio, value, ten, ← zpow_natCast, Int.toNat_of_nonneg (by omega)]
    · have scaled : x.exp ≠ 0 := by omega
      have inside : 1 ≤ x.exp ∧ x.exp ≤ 308 := by omega
      simp only [if_neg scaled, if_pos inside, leading, power, product, Bool.bne_false]
  · obtain ⟨n, f, power, ten⟩ := Binary64.powNat_ten_exact (k := (-x.exp).toNat) (by omega)
    obtain ⟨num, den, numerator, denominator, ratio, quotient⟩ := Binary64.div_eq_ofRatio
      (x.coeff < 0) false left e (significand_ne_zero ten (powers _)) f
    refine ⟨num, den, numerator, denominator, ?_, ?_⟩
    · rw [ratio, value, ten, ← zpow_natCast, Int.toNat_of_nonneg (by omega), zpow_neg,
        div_inv_eq_mul]
    · have scaled : x.exp ≠ 0 := by omega
      have downward : ¬ (1 ≤ x.exp ∧ x.exp ≤ 308) := by omega
      have inside : -308 ≤ x.exp ∧ x.exp ≤ -1 := by omega
      simp only [if_neg scaled, if_neg downward, if_pos inside, leading, power, quotient,
        Bool.bne_false]

/-- A decimal from its sign and its magnitude. -/
theorem Decimal.ofScaled_natAbs :
    (if x.coeff < 0 then (ofScaled x.coeff.natAbs x.exp).neg else ofScaled x.coeff.natAbs x.exp) =
      x := by
  by_cases negative : x.coeff < 0
  · have magnitude : (x.coeff.natAbs : ℤ) = x.neg.coeff := by
      simp only [neg]
      omega
    rw [if_pos negative, magnitude, show x.exp = x.neg.exp from rfl, ofScaled_coeff, neg_neg]
  · have magnitude : (x.coeff.natAbs : ℤ) = x.coeff := by omega
    rw [if_neg negative, magnitude, ofScaled_coeff]

/-- A decimal of few digits is the shortest decimal of its double. -/
theorem Decimal.FewDigits.ofDouble_toBinary64? (few : x.FewDigits) (nonzero : x.coeff ≠ 0) :
    ∃ m e, x.toBinary64? = some (.finite (x.coeff < 0) m e) ∧ ofDouble (x.coeff < 0) m e = x := by
  obtain ⟨num, den, numerator, denominator, ratio, double⟩ := few.toBinary64?_eq nonzero
  have step : (0 : ℚ) < 10 ^ x.exp := by positivity
  have one : (1 : ℚ) ≤ x.coeff.natAbs := by
    exact_mod_cast Nat.one_le_iff_ne_zero.mpr (Int.natAbs_ne_zero.mpr nonzero)
  have digits : (x.coeff.natAbs : ℚ) ≤ 10 ^ 15 := by exact_mod_cast few.coeff.le
  have ten : (1 : ℚ) ≤ 10 := by norm_num
  have low : (2 : ℚ) ^ (-1022 : ℤ) ≤ num / den := by
    rw [ratio]
    calc (2 : ℚ) ^ (-1022 : ℤ) ≤ 2 ^ (-74 : ℤ) := zpow_le_zpow_right₀ one_le_two (by decide)
      _ ≤ 10 ^ (-22 : ℤ) := by norm_num
      _ ≤ 10 ^ x.exp := zpow_le_zpow_right₀ ten few.low
      _ ≤ x.coeff.natAbs * 10 ^ x.exp := le_mul_of_one_le_left step.le one
  have high : (num : ℚ) / den < 2 ^ 1023 := by
    rw [ratio]
    calc (x.coeff.natAbs : ℚ) * 10 ^ x.exp ≤ 10 ^ 15 * 10 ^ (22 : ℤ) :=
          mul_le_mul digits (zpow_le_zpow_right₀ ten few.high) step.le (by positivity)
      _ < 2 ^ 124 := by norm_num
      _ ≤ 2 ^ 1023 := pow_le_pow_right₀ one_le_two (by decide)
  obtain ⟨m, e, rounded, full, fits⟩ := Binary64.exists_ofRatio (x.coeff < 0)
    numerator denominator low high
  have inside := RoundingInterval.contains_of_ofRatio numerator denominator rounded
  rw [ratio] at inside
  have reduced : x.coeff.natAbs % 10 ≠ 0 := by
    have := x.normal
    omega
  refine ⟨m, e, by rw [double, rounded]; rfl, ?_⟩
  rw [ofDouble_of_contains full fits reduced few.coeff few.low few.high inside]
  simpa using x.ofScaled_natAbs

end Doubles

end Spreadsheet
