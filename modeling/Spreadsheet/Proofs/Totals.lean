import Mathlib.Algebra.Order.BigOperators.Group.List
import Mathlib.Data.List.Perm.Basic
import Mathlib.Data.Set.List
import Spreadsheet.Proofs.ExactArithmetic
import Spreadsheet.Proofs.Operands

/-!
# Totals

A sum adds up the numbers that its arguments supply (`sumOperands_eq_ok`), one after another and with
a rounding each time. If the numbers are multiples of a power of ten and small enough together
(`Decimal.SumFits`), no partial sum has too many digits, whatever the order, so nothing is rounded
(`Decimal.SumFits.toRat_foldl_add`). Then a total depends on the numbers alone, and not on their
arrangement (`Function.sum_exact`).
-/

namespace Spreadsheet

/-! ## The numbers that are added -/

/-- Whether an argument supplies numbers to a sum: a range those among its cells, if none of them is
an error, and a scalar the one that it stands for. -/
inductive Operand.Supplies : Operand → List Number → Prop
  | range {x : Operand} (range : x.isRange) (errorless : ∀ v ∈ x.cells, ¬ v.isError) :
      Supplies x (numbersOf x.cells)
  | scalar {v : Value} {n : Number} (scalar : ¬ v.isArray) (stands : v.toNumber? = .ok n) :
      Supplies (.value v) [n]

section Supplies

variable {total n : Number} {cells : List Value} {x : Operand} {args : List Operand}

theorem addCells_eq_ok :
    addCells total cells = .ok n ↔
      (∀ v ∈ cells, ¬ v.isError) ∧ n = (numbersOf cells).foldl .add total := by
  induction cells generalizing total with
  | nil =>
    constructor
    · intro added
      cases added
      exact ⟨fun _ member => absurd member List.not_mem_nil, rfl⟩
    · rintro ⟨-, rfl⟩
      rfl
  | cons v rest ih =>
    rw [List.forall_mem_cons]
    cases v with
    | error e =>
      constructor
      · intro added
        cases added
      · rintro ⟨⟨first, -⟩, -⟩
        exact absurd rfl first
    | number m =>
      change addCells (total.add m) rest = .ok n ↔ _
      rw [ih]
      exact and_congr_left' (and_iff_right Bool.false_ne_true).symm
    | null | bool _ | text _ | array _ =>
      change addCells total rest = .ok n ↔ _
      rw [ih]
      exact and_congr_left' (and_iff_right Bool.false_ne_true).symm

theorem Operand.scalar_value {v : Value} (scalar : ¬ v.isArray) : (Operand.value v).scalar = v := by
  cases v with
  | array g => exact absurd rfl scalar
  | null | bool _ | number _ | text _ | error _ => rfl

/-- What an argument supplies is added to the total, from left to right. -/
theorem addOperand_eq_ok :
    addOperand total x = .ok n ↔ ∃ numbers, x.Supplies numbers ∧ n = numbers.foldl .add total := by
  rw [addOperand]
  split
  next range =>
    rw [addCells_eq_ok]
    constructor
    · rintro ⟨errorless, rfl⟩
      exact ⟨_, .range range errorless, rfl⟩
    · rintro ⟨numbers, ⟨-, errorless⟩ | ⟨scalar, -⟩, rfl⟩
      · exact ⟨errorless, rfl⟩
      · exact absurd range scalar
  next scalar =>
    cases x with
    | reference r => exact absurd rfl scalar
    | value v =>
      rw [Operand.scalar_value scalar]
      constructor
      · intro added
        cases stands : v.toNumber? with
        | error e =>
          rw [stands] at added
          cases added
        | ok m =>
          rw [stands] at added
          cases added
          exact ⟨[m], .scalar scalar stands, rfl⟩
      · rintro ⟨numbers, ⟨range, -⟩ | ⟨-, stands⟩, rfl⟩
        · exact absurd range scalar
        · rw [stands]
          rfl

/-- The numbers of all arguments are added one after another. -/
theorem sumOperands_eq_ok :
    sumOperands total args = .ok n ↔
      ∃ groups, List.Forall₂ Operand.Supplies args groups ∧
        n = groups.flatten.foldl .add total := by
  induction args generalizing total with
  | nil =>
    constructor
    · intro summed
      cases summed
      exact ⟨[], .nil, rfl⟩
    · rintro ⟨groups, supplied, rfl⟩
      cases supplied
      rfl
  | cons x rest ih =>
    rw [sumOperands]
    constructor
    · intro summed
      obtain ⟨m, added, later⟩ := Except.exists_of_bind_eq_ok summed
      obtain ⟨numbers, supplies, rfl⟩ := addOperand_eq_ok.mp added
      obtain ⟨groups, supplied, rfl⟩ := ih.mp later
      exact ⟨numbers :: groups, .cons supplies supplied, by rw [List.flatten_cons, List.foldl_append]⟩
    · rintro ⟨groups, supplied, sum⟩
      cases supplied with
      | @cons _ numbers _ groups supplies supplied =>
        have added : addOperand total x = .ok (numbers.foldl .add total) :=
          addOperand_eq_ok.mpr ⟨numbers, supplies, rfl⟩
        rw [List.flatten_cons, List.foldl_append] at sum
        rw [added]
        exact ih.mpr ⟨groups, supplied, sum⟩

end Supplies

/-! ## Sums without rounding -/

/-- Whether decimals are multiples of a power of ten, and together so small that sums of them have no
more digits than arithmetic keeps. -/
structure Decimal.SumFits (exp : ℤ) (xs : List Decimal) : Prop where
  multiple : ∀ x ∈ xs, IsMultiple exp x.toRat
  small : (xs.map fun x => |x.toRat|).sum < 10 ^ (precision + exp)

section Sums

variable {exp : ℤ} {x y : Decimal} {xs ys : List Decimal} {numbers : List Number}

theorem Decimal.SumFits.perm (fits : SumFits exp xs) (arranged : ys.Perm xs) : SumFits exp ys where
  multiple := fun x member => fits.multiple x (arranged.mem_iff.mp member)
  small := by
    rw [(arranged.map fun x => |x.toRat|).sum_eq]
    exact fits.small

/-- An addition of the first two is exact, and its result fits the others as they did. -/
theorem Decimal.SumFits.step (fits : SumFits exp (x :: y :: xs)) :
    (x.add y).toRat = x.toRat + y.toRat ∧ SumFits exp (x.add y :: xs) := by
  obtain ⟨multiples, small⟩ := fits
  rw [List.forall_mem_cons, List.forall_mem_cons] at multiples
  obtain ⟨multiple, multiple', others⟩ := multiples
  rw [List.map_cons, List.map_cons, List.sum_cons, List.sum_cons, ← add_assoc] at small
  have rest : 0 ≤ (xs.map fun z => |z.toRat|).sum :=
    List.sum_nonneg (List.forall_mem_map.mpr fun z _ => abs_nonneg z.toRat)
  have triangle := abs_add_le x.toRat y.toRat
  have sum : IsMultiple exp (x.toRat + y.toRat) := multiple.add multiple'
  have below : |x.toRat + y.toRat| < 10 ^ (precision + exp) :=
    (triangle.trans (le_add_of_nonneg_right rest)).trans_lt small
  have exact : (x.add y).toRat = x.toRat + y.toRat := toRat_add (sum.isRepresentable below)
  refine ⟨exact, List.forall_mem_cons.mpr ⟨by rwa [exact], others⟩, ?_⟩
  rw [List.map_cons, List.sum_cons, exact]
  exact (add_le_add_left triangle _).trans_lt small

/-- So is the sum of all of them. -/
theorem Decimal.SumFits.toRat_foldl_add (fits : SumFits exp (x :: xs)) :
    (xs.foldl add x).toRat = x.toRat + (xs.map toRat).sum := by
  induction xs generalizing x with
  | nil => rw [List.foldl_nil, List.map_nil, List.sum_nil, add_zero]
  | cons y rest ih =>
    obtain ⟨exact, fits⟩ := fits.step
    rw [List.foldl_cons, ih fits, exact, List.map_cons, List.sum_cons, add_assoc]

theorem Decimal.SumFits.cons_zero (fits : SumFits exp xs) : SumFits exp (ofInt 0 :: xs) := by
  have zero : (ofInt 0).toRat = 0 := by rw [toRat_ofInt, Int.cast_zero]
  refine ⟨List.forall_mem_cons.mpr ⟨by rw [zero]; exact isMultiple_zero exp, fits.multiple⟩, ?_⟩
  rw [List.map_cons, List.sum_cons, zero, abs_zero, zero_add]
  exact fits.small

/-- The sum that starts from zero, which fits the others. -/
theorem Decimal.SumFits.toRat_total (fits : SumFits exp xs) :
    (xs.foldl add (ofInt 0)).toRat = (xs.map toRat).sum := by
  rw [fits.cons_zero.toRat_foldl_add, toRat_ofInt, Int.cast_zero, zero_add]

/-- The decimals that numbers are, if all of them are decimals. -/
theorem Number.exists_map_decimal (finite : ∀ n ∈ numbers, ∃ x, Number.decimal x = n) :
    ∃ xs : List Decimal, numbers = xs.map .decimal := by
  have lifted : numbers ∈ Set.range (List.map decimal) := by
    rw [Set.range_list_map]
    exact finite
  obtain ⟨xs, rfl⟩ := lifted
  exact ⟨xs, rfl⟩

theorem foldl_add_decimals (x : Decimal) (xs : List Decimal) :
    (xs.map Number.decimal).foldl Number.add (.decimal x) = .decimal (xs.foldl Decimal.add x) := by
  rw [List.foldl_map]
  exact List.foldl_hom Number.decimal (fun _ _ => rfl)

/-- A total of decimals is a decimal. -/
theorem totalOf_decimals (xs : List Decimal) :
    totalOf (xs.map .decimal) = .decimal (xs.foldl Decimal.add (.ofInt 0)) := by
  have zero : Number.ofInt 0 = .decimal (.ofInt 0) := by decide
  rw [totalOf, zero, foldl_add_decimals]

/-- The total of decimals that fit together is the same in every order, and exact. -/
theorem Decimal.SumFits.totalOf_eq (fits : SumFits exp xs) {total : Decimal}
    (value : total.toRat = (xs.map toRat).sum) (arranged : numbers.Perm (xs.map .decimal)) :
    totalOf numbers = .decimal total := by
  have finite : ∀ n ∈ numbers, ∃ x, Number.decimal x = n := by
    intro n member
    obtain ⟨x, -, same⟩ := List.mem_map.mp (arranged.mem_iff.mp member)
    exact ⟨x, same⟩
  obtain ⟨ys, rfl⟩ := Number.exists_map_decimal finite
  have order : ys.Perm xs := (List.map_perm_map_iff fun _ _ => Number.decimal.inj).mp arranged
  have exact : (ys.foldl add (ofInt 0)).toRat = total.toRat := by
    rw [(fits.perm order).toRat_total, (order.map toRat).sum_eq, value]
  rw [totalOf_decimals, toRat_injective exact]

end Sums

/-! ## Sums of arguments -/

section Functions

variable {exp : ℤ} {xs : List Decimal}

/-- Sums of numbers that fit together are exact, whatever the order of the numbers is and however they
are split over the arguments, and so are conditional sums of the cells that are chosen. -/
theorem Function.sum_exact (fits : Decimal.SumFits exp xs) :
    ∃ total : Decimal, total.toRat = (xs.map Decimal.toRat).sum ∧
      (∀ args groups, args ≠ [] → List.Forall₂ Operand.Supplies args groups →
        groups.flatten.Perm (xs.map .decimal) →
          Function.sum.calculate args = .value (.number (.decimal total))) ∧
      ∀ args cells, chosenCells "SUMIF" true args = .ok cells →
        (numbersOf cells).Perm (xs.map .decimal) →
          Function.sumIf.calculate args = .value (.number (.decimal total)) := by
  have value := fits.toRat_total
  refine ⟨_, value, ?_, ?_⟩
  · intro args groups nonempty supplied arranged
    have total := fits.totalOf_eq value arranged
    have summed := sumOperands_eq_ok.mpr ⟨groups, supplied, total.symm⟩
    rw [Function.sum]
    simp only [List.isEmpty_eq_false_iff.mpr nonempty, summed]
    rfl
  · intro args cells chosen arranged
    have total := fits.totalOf_eq value arranged
    simp only [Function.sumIf, chosen, Except.map, total]
    rfl

/-- Thirty as a scalar, then a tenth and minus two in an array with a text and a blank, and the same
numbers in another order as the cells of a conditional sum, which passes over a seven. -/
theorem Function.sum_exact_arranged :
    ∃ total : Decimal, total.toRat = 281 / 10 ∧
      Function.sum.calculate
          [.value (.ofInt 30),
            .value (.array ⟨2, 2,
              [.text "7", .number (.decimal (.ofScaled 1 (-1))), .null, .ofInt (-2)]⟩)] =
        .value (.number (.decimal total)) ∧
      Function.sumIf.calculate
          [.value (.array ⟨1, 5, [.ofInt 5, .ofInt 1, .ofInt 3, .text "x", .ofInt 4]⟩),
            .value (.text ">2"),
            .value (.array ⟨1, 5, [.ofInt (-2), .ofInt 7, .number (.decimal (.ofScaled 1 (-1))),
              .bool true, .ofInt 30]⟩)] =
        .value (.number (.decimal total)) := by
  have tenth : (Decimal.ofScaled 1 (-1)).toRat = 1 / 10 := by
    rw [Decimal.toRat_ofScaled]
    norm_num
  have fits : Decimal.SumFits (-1) [.ofInt 30, .ofScaled 1 (-1), .ofInt (-2)] := by
    constructor
    · simp only [List.forall_mem_cons, List.not_mem_nil, false_implies, implies_true, and_true, tenth,
        Decimal.toRat_ofInt]
      exact ⟨⟨300, by norm_num⟩, ⟨1, by norm_num⟩, ⟨-20, by norm_num⟩⟩
    · simp only [List.map_cons, List.map_nil, List.sum_cons, List.sum_nil, tenth, Decimal.toRat_ofInt,
        Decimal.precision]
      norm_num [abs_of_pos, abs_of_neg]
  obtain ⟨total, value, sum, sumIf⟩ := sum_exact fits
  refine ⟨total, ?_, ?_, ?_⟩
  · rw [value]
    simp only [List.map_cons, List.map_nil, List.sum_cons, List.sum_nil, tenth, Decimal.toRat_ofInt]
    norm_num
  · refine sum _ [[.ofInt 30], _] (by decide)
      (.cons (.scalar (by decide) rfl) (.cons (.range rfl ?_) .nil)) (.refl _)
    simp [Operand.cells, Value.isError, Value.ofInt]
  · exact sumIf _ _ rfl (by decide)

end Functions

end Spreadsheet
