import Mathlib.Algebra.Order.BigOperators.Group.Multiset
import Spreadsheet.Proofs.Totals

/-!
# Means

A mean is a quotient of a total and a count. If the numbers fit together, their total is exact, so the
exact quotient lies between the least and the greatest of them; and a division does not cross a number
of few digits, so the computed one lies there too (`Decimal.SumFits.exists_le_mean`). A count of more
digits than arithmetic keeps is rounded, but then some of the numbers are zero, and the others are
too large to be crossed (`exists_le_sum_div_of_many`).
-/

namespace Spreadsheet

/-! ## Exact means -/

section Quotients

variable {exp : ℤ} {vs : List ℚ}

theorem sum_map_const (vs : List ℚ) (c : ℚ) : (vs.map fun _ => c).sum = vs.length * c := by
  rw [List.map_const', List.sum_replicate, nsmul_eq_mul]

/-- Some number is at most the mean. -/
theorem exists_le_sum_div (nonempty : vs ≠ []) : ∃ v ∈ vs, v ≤ vs.sum / vs.length := by
  have positive : (0 : ℚ) < vs.length := by exact_mod_cast List.length_pos_iff.mpr nonempty
  apply List.exists_le_of_sum_le nonempty id fun _ => vs.sum / vs.length
  rw [sum_map_const, List.map_id, mul_div_cancel₀ _ positive.ne']

/-- Multiples of a power of ten that are too many for their sum contain zero, and any other one is at
least that power in magnitude. So their sum can be divided by another great count as well. -/
theorem exists_le_sum_div_of_many {most count : ℚ} (multiple : ∀ v ∈ vs, IsMultiple exp v)
    (small : (vs.map abs).sum < most * 10 ^ exp) (many : most ≤ vs.length) (great : most ≤ count) :
    ∃ v ∈ vs, v ≤ vs.sum / count := by
  have unit : (0 : ℚ) < 10 ^ exp := by positivity
  have magnitude : |vs.sum| ≤ (vs.map abs).sum := by
    simpa using Multiset.abs_sum_le_sum_abs (s := (vs : Multiset ℚ))
  have bound : |vs.sum| < count * 10 ^ exp := by
    calc |vs.sum| ≤ (vs.map abs).sum := magnitude
      _ < most * 10 ^ exp := small
      _ ≤ count * 10 ^ exp := by gcongr
  have positive : 0 < count := pos_of_mul_pos_left ((abs_nonneg _).trans_lt bound) unit.le
  rcases lt_or_ge vs.sum 0 with negative | nonnegative
  · obtain ⟨v, member, below⟩ : ∃ v ∈ vs, v < 0 := by
      apply List.exists_lt_of_sum_lt id fun _ => 0
      rwa [sum_map_const, List.map_id, mul_zero]
    have far : v ≤ -10 ^ exp := by
      have step := (multiple v member).pow_le_abs (ne_of_lt below)
      rw [abs_of_neg below] at step
      exact le_neg.mp step
    refine ⟨v, member, far.trans ?_⟩
    rw [le_div_iff₀ positive]
    linarith [neg_abs_le vs.sum]
  · obtain ⟨v, member, tiny⟩ : ∃ v ∈ vs, |v| < 10 ^ exp := by
      apply List.exists_lt_of_sum_lt abs fun _ => 10 ^ exp
      rw [sum_map_const]
      exact small.trans_le (by gcongr)
    have zero : v = 0 := by
      by_contra nonzero
      exact absurd ((multiple v member).pow_le_abs nonzero) (not_le.mpr tiny)
    refine ⟨v, member, ?_⟩
    rw [zero]
    positivity

end Quotients

/-! ## Computed means -/

section Means

variable {exp : ℤ} {xs : List Decimal} {total : Decimal}

/-- The count of a mean, which is exact unless it has more digits than arithmetic keeps. -/
theorem Decimal.toRat_round_ofInt (count : ℕ) :
    (ofInt count).round.toRat = count ∨
      10 ^ precision ≤ count ∧ 10 ^ precision ≤ (ofInt count).round.toRat := by
  have value : (ofInt count).toRat = count := by rw [toRat_ofInt, Int.cast_natCast]
  rcases lt_or_ge count (10 ^ precision) with few | many
  · have digits : IsRepresentable (ofInt count).toRat := by
      refine ⟨count, 0, few, ?_⟩
      rw [value, zpow_zero, mul_one, Int.cast_natCast]
    refine .inl ?_
    rw [round, roundTo_of_isRepresentable digits le_rfl, value]
  · have power : IsRepresentable (10 ^ precision) := by
      refine ⟨1, precision, by decide, ?_⟩
      rw [Int.cast_one, one_mul, zpow_natCast]
    refine .inr ⟨many, le_toRat_round power ?_⟩
    rw [value]
    exact_mod_cast many

theorem Decimal.coeff_round_ofInt_pos {count : ℕ} (positive : 0 < count) :
    0 < (ofInt count).round.coeff := by
  apply coeff_roundTo_pos (by decide)
  rw [← toRat_pos, toRat_ofInt]
  exact_mod_cast positive

theorem Decimal.SumFits.isRepresentable (fits : SumFits exp xs) {x : Decimal} (member : x ∈ xs) :
    IsRepresentable x.toRat := by
  apply (fits.multiple x member).isRepresentable
  have part : |x.toRat| ≤ (xs.map fun x => |x.toRat|).sum :=
    List.single_le_sum (List.forall_mem_map.mpr fun y _ => abs_nonneg y.toRat) _
      (List.mem_map_of_mem member)
  exact part.trans_lt fits.small

theorem Decimal.SumFits.neg (fits : SumFits exp xs) : SumFits exp (xs.map .neg) where
  multiple := by
    refine List.forall_mem_map.mpr fun x member => ?_
    rw [toRat_neg]
    exact (fits.multiple x member).neg
  small := by
    simpa only [List.map_map, Function.comp_def, toRat_neg, abs_neg] using fits.small

/-- The least number is not greater than the mean. -/
theorem Decimal.SumFits.exists_le_mean (fits : SumFits exp xs) (nonempty : xs ≠ [])
    (value : total.toRat = (xs.map toRat).sum) :
    ∃ x ∈ xs, x.toRat ≤ (total.div (ofInt xs.length).round).toRat := by
  have exact : ∃ v ∈ xs.map toRat, v ≤ (xs.map toRat).sum / (ofInt xs.length).round.toRat := by
    rcases toRat_round_ofInt xs.length with count | ⟨many, great⟩
    · have length : (xs.map toRat).length = xs.length := List.length_map toRat
      rw [count, ← length]
      exact exists_le_sum_div (mt List.map_eq_nil_iff.mp nonempty)
    · have small := fits.small
      rw [zpow_add₀ (by norm_num), zpow_natCast] at small
      apply exists_le_sum_div_of_many (List.forall_mem_map.mpr fits.multiple) _ _ great
      · simpa only [List.map_map, Function.comp_def] using small
      · rw [List.length_map]
        exact_mod_cast many
  obtain ⟨v, member, below⟩ := exact
  obtain ⟨x, inside, rfl⟩ := List.mem_map.mp member
  refine ⟨x, inside, le_toRat_div ?_ (fits.isRepresentable inside) (by rwa [value])⟩
  exact coeff_round_ofInt_pos (List.length_pos_iff.mpr nonempty)

/-- Nor is the greatest one less. -/
theorem Decimal.SumFits.exists_mean_le (fits : SumFits exp xs) (nonempty : xs ≠ [])
    (value : total.toRat = (xs.map toRat).sum) :
    ∃ x ∈ xs, (total.div (ofInt xs.length).round).toRat ≤ x.toRat := by
  have opposite : total.neg.toRat = ((xs.map Decimal.neg).map toRat).sum := by
    simp only [toRat_neg, value, List.map_map, Function.comp_def, List.sum_neg]
  obtain ⟨y, member, below⟩ :=
    fits.neg.exists_le_mean (mt List.map_eq_nil_iff.mp nonempty) opposite
  obtain ⟨x, inside, rfl⟩ := List.mem_map.mp member
  rw [List.length_map, neg_div, toRat_neg, toRat_neg] at below
  exact ⟨x, inside, neg_le_neg_iff.mp below⟩

end Means

/-! ## Means of cells -/

section Functions

variable {numbers : List Number} {args : List Operand} {cells : List Value}

theorem Number.isZero_ofInt_length (nonempty : numbers ≠ []) :
    (Number.ofInt numbers.length).isZero = false := by
  have positive := Decimal.coeff_round_ofInt_pos (List.length_pos_iff.mpr nonempty)
  exact decide_eq_false positive.ne'

theorem meanOf_nil : meanOf [] = .error (.ofNumberError .divisionByZero) :=
  rfl

theorem Number.exists_div?_eq_ok {x y : Number} (nonzero : y.isZero = false) :
    ∃ n, x.div? y = .ok n := by
  unfold div?
  rw [nonzero, if_neg Bool.false_ne_true]
  cases x <;> cases y <;> exact ⟨_, rfl⟩

theorem meanOf_of_div? {n : Number} (quotient : (totalOf numbers).div? (.ofInt numbers.length) = .ok n) :
    meanOf numbers = .ok n := by
  unfold meanOf
  rw [quotient]

theorem exists_meanOf_eq_ok (nonempty : numbers ≠ []) : ∃ n, meanOf numbers = .ok n := by
  obtain ⟨n, quotient⟩ :=
    Number.exists_div?_eq_ok (x := totalOf numbers) (Number.isZero_ofInt_length nonempty)
  exact ⟨n, meanOf_of_div? quotient⟩

theorem meanOf_eq_ok (nonempty : numbers ≠ []) {total : Decimal}
    (sum : totalOf numbers = .decimal total) :
    meanOf numbers = .ok (.decimal (total.div (.round (.ofInt numbers.length)))) := by
  apply meanOf_of_div?
  unfold Number.div?
  rw [Number.isZero_ofInt_length nonempty, if_neg Bool.false_ne_true, sum]
  rfl

/-- The mean of chosen cells is a division by zero if none of them is a number. The mean of numbers
that fit together is not less than all of them, nor greater than all of them, and so it is the only
one if they are all the same. -/
theorem Function.averageIf_mean (chosen : chosenCells "AVERAGEIF" true args = .ok cells) :
    ((∃ message, averageIf.calculate args = .value (.error ⟨.divByZero, message⟩)) ↔
      ∀ v ∈ cells, v.asNumber? = none) ∧
    ∀ exp xs, numbersOf cells = xs.map .decimal → xs ≠ [] → Decimal.SumFits exp xs →
      ∃ mean : Decimal, averageIf.calculate args = .value (.number (.decimal mean)) ∧
        (∃ x ∈ xs, x.toRat ≤ mean.toRat) ∧ (∃ x ∈ xs, mean.toRat ≤ x.toRat) ∧
        ∀ x, (∀ y ∈ xs, y = x) → mean = x := by
  have result : averageIf.calculate args = .ofNumber? (meanOf (numbersOf cells)) := by
    simp only [averageIf, chosen, Except.bind]
  rw [result]
  constructor
  · rw [← List.filterMap_eq_nil_iff, ← numbersOf]
    constructor
    · rintro ⟨message, failed⟩
      by_contra nonempty
      obtain ⟨n, mean⟩ := exists_meanOf_eq_ok nonempty
      rw [mean] at failed
      cases failed
    · intro empty
      rw [empty, meanOf_nil]
      exact ⟨_, rfl⟩
  · intro exp xs numbers nonempty fits
    have value := fits.toRat_total
    have mean := meanOf_eq_ok (mt List.map_eq_nil_iff.mp nonempty) (totalOf_decimals xs)
    rw [List.length_map] at mean
    obtain ⟨least, inside, below⟩ := fits.exists_le_mean nonempty value
    obtain ⟨greatest, inside', above⟩ := fits.exists_mean_le nonempty value
    refine ⟨_, by rw [numbers, mean]; rfl, ⟨least, inside, below⟩, ⟨greatest, inside', above⟩, ?_⟩
    intro x same
    rw [same least inside] at below
    rw [same greatest inside'] at above
    exact Decimal.toRat_injective (le_antisymm above below)

/-- One, two and two beside a blank, and a nine that is passed over. The mean is not exact: it is
five thirds to fifty digits. -/
theorem Function.averageIf_mean_of_three :
    let args : List Operand :=
      [.value (.array ⟨1, 5, [.ofInt 5, .ofInt 1, .ofInt 3, .text "x", .ofInt 4]⟩),
        .value (.text ">2"),
        .value (.array ⟨1, 5, [.ofInt 1, .ofInt 9, .ofInt 2, .null, .ofInt 2]⟩)]
    let mean := Decimal.ofScaled ((5 * 10 ^ 49 + 1) / 3) (-49)
    (¬ ∃ message, averageIf.calculate args = .value (.error ⟨.divByZero, message⟩)) ∧
      averageIf.calculate args = .value (.number (.decimal mean)) ∧
        1 ≤ mean.toRat ∧ mean.toRat ≤ 2 := by
  intro args value
  have chosen : chosenCells "AVERAGEIF" true args = .ok [.ofInt 1, .ofInt 2, .null, .ofInt 2] := rfl
  have computed : averageIf.calculate args = .value (.number (.decimal value)) := rfl
  obtain ⟨failed, mean⟩ := averageIf_mean chosen
  have fits : Decimal.SumFits 0 [.ofInt 1, .ofInt 2, .ofInt 2] := by
    constructor
    · simp only [List.forall_mem_cons, List.not_mem_nil, false_implies, implies_true, and_true,
        Decimal.toRat_ofInt]
      exact ⟨⟨1, by norm_num⟩, ⟨2, by norm_num⟩, ⟨2, by norm_num⟩⟩
    · simp only [List.map_cons, List.map_nil, List.sum_cons, List.sum_nil, Decimal.toRat_ofInt,
        Decimal.precision]
      norm_num [abs_of_pos]
  constructor
  · rw [failed]
    intro none
    cases none _ List.mem_cons_self
  · obtain ⟨z, result, ⟨x, inside, below⟩, ⟨y, inside', above⟩, -⟩ :=
      mean 0 [.ofInt 1, .ofInt 2, .ofInt 2] (by decide) (by decide) fits
    have least : 1 ≤ x.toRat := by
      simp only [List.mem_cons, List.not_mem_nil, or_false] at inside
      rcases inside with rfl | rfl | rfl <;> norm_num
    have greatest : y.toRat ≤ 2 := by
      simp only [List.mem_cons, List.not_mem_nil, or_false] at inside'
      rcases inside' with rfl | rfl | rfl <;> norm_num
    obtain rfl : value = z := by
      rw [computed] at result
      cases result
      rfl
    exact ⟨computed, least.trans below, above.trans greatest⟩

end Functions

end Spreadsheet
