import Spreadsheet.Proofs.Infinities
import Spreadsheet.Proofs.Means
import Spreadsheet.Proofs.Pointwise

/-!
# Undefined results

Infinities have undefined combinations. Operators report them: a result that would be NaN is an error
instead, wherever it stands in an array (`BinaryOperation.not_hasNaN_apply`). Sums do not. A sum is
NaN just if among its numbers an infinity meets one that counts as the opposite infinity
(`totalOf_eq_nan_iff`), and NaN is then what the functions return (`hasNaN_of_results`).
-/

namespace Spreadsheet

/-! ## Results of operators -/

/-- Whether NaN occurs in a value, at any depth. -/
inductive Value.HasNaN : Value → Prop
  | number : HasNaN (.number .nan)
  | array {g : Grid Value} {v : Value} (member : v ∈ g.cells) (cell : v.HasNaN) : HasNaN (.array g)

/-- Whether NaN occurs in a cell of an operand. -/
def Operand.HasNaN (x : Operand) : Prop :=
  ∃ v ∈ x.cells, v.HasNaN

section Operators

variable {x y : Value}

/-- NaN in what an operation makes of the scalars inside a value comes from one of them. -/
theorem Value.exists_of_hasNaN_mapScalars {op : Value → Value} (nan : (mapScalars op x).HasNaN) :
    ∃ v, (op v).HasNaN := by
  -- Values nest through lists of cells, so the induction is on the depth at which NaN stands.
  generalize result : mapScalars op x = r at nan
  induction nan generalizing x with
  | number =>
    have nan : (mapScalars op x).HasNaN := by
      rw [result]
      exact .number
    cases x with
    | error e => cases result
    | array g =>
      rw [mapScalars_array] at result
      cases result
    | null | bool _ | number _ | text _ => exact ⟨_, nan⟩
  | array member cell ih =>
    have nan : (mapScalars op x).HasNaN := by
      rw [result]
      exact .array member cell
    cases x with
    | error e => cases result
    | array g =>
      rw [mapScalars_array] at result
      cases result
      obtain ⟨v, -, here⟩ := List.mem_map.mp member
      exact ih here
    | null | bool _ | number _ | text _ => exact ⟨_, nan⟩

/-- NaN in what an operation on two scalars makes of two values comes from a pair of scalars. -/
theorem Value.exists_of_hasNaN_broadcast {op : Value → Value → Value}
    (nan : (Value.broadcast op x y).HasNaN) : ∃ v w, (op v w).HasNaN := by
  generalize result : Value.broadcast op x y = r at nan
  induction nan generalizing x y with
  | number =>
    have nan : (Value.broadcast op x y).HasNaN := by
      rw [result]
      exact .number
    cases x with
    | error e => cases result
    | array g =>
      rw [broadcast_array] at result
      cases y <;> cases result
    | null | bool _ | number _ | text _ => exact ⟨_, exists_of_hasNaN_mapScalars nan⟩
  | array member cell ih =>
    have nan : (Value.broadcast op x y).HasNaN := by
      rw [result]
      exact .array member cell
    cases x with
    | error e => cases result
    | array g =>
      rw [broadcast_array] at result
      cases y with
      | error e => cases result
      | array h =>
        cases result
        rcases Grid.mem_zipBroadcast member with ⟨operation, inside, w, -, rfl⟩ | rfl
        · obtain ⟨v, -, rfl⟩ := List.mem_map.mp inside
          exact ih rfl
        · cases cell
      | null | bool _ | number _ | text _ =>
        cases result
        obtain ⟨operation, inside, rfl⟩ := List.mem_map.mp member
        obtain ⟨v, -, rfl⟩ := List.mem_map.mp inside
        exact ih rfl
    | null | bool _ | number _ | text _ => exact ⟨_, exists_of_hasNaN_mapScalars nan⟩

theorem Value.not_hasNaN_scalarArithmetic {op : Arithmetic} :
    ¬ (Value.scalarArithmetic op x y).HasNaN := by
  intro nan
  unfold scalarArithmetic at nan
  split at nan
  · unfold Arithmetic.apply at nan
    split at nan
    · split at nan
      · cases nan
      · rename_i defined
        cases nan
        exact defined rfl
    · cases nan
  · cases nan

theorem Value.not_hasNaN_scalarMatches {r : Relation} : ¬ (Value.scalarMatches r x y).HasNaN := by
  intro nan
  unfold scalarMatches at nan
  split at nan <;> cases nan

/-- NaN does not occur in the result of an operator, whatever its operands are. -/
theorem BinaryOperation.not_hasNaN_apply (op : BinaryOperation) : ¬ (op.apply x y).HasNaN := by
  intro nan
  cases op with
  | plus | minus | times | dividedBy | power =>
    obtain ⟨v, w, here⟩ := Value.exists_of_hasNaN_broadcast nan
    exact Value.not_hasNaN_scalarArithmetic here
  | relates r =>
    obtain ⟨v, w, here⟩ := Value.exists_of_hasNaN_broadcast nan
    cases here
  | relatesToPattern r =>
    obtain ⟨v, w, here⟩ := Value.exists_of_hasNaN_broadcast nan
    exact Value.not_hasNaN_scalarMatches here
  | precededBy | followedBy =>
    obtain ⟨v, w, here⟩ := Value.exists_of_hasNaN_broadcast nan
    cases here

/-- What arithmetic leaves undefined is the error `#NUM!`. -/
theorem Value.arithmetic_of_undefined {op : Arithmetic} {m n : Number}
    (undefined : op.compute m n = .ok .nan) :
    Value.arithmetic op (.number m) (.number n) = .ofErrorKind .number := by
  change op.apply m n = _
  unfold Arithmetic.apply
  rw [undefined]
  rfl

end Operators

/-! ## Undefined sums -/

/-- Whether numbers have no total: the first infinity among them meets a number that counts as the
opposite infinity, which is the total of the decimals before it, or a number behind it. -/
def HasNoTotal (numbers : List Number) : Prop :=
  ∃ (decimals : List Decimal) (negative : Bool) (rest : List Number),
    numbers = decimals.map .decimal ++ .infinity negative :: rest ∧
      ∃ n ∈ totalOf (decimals.map .decimal) :: rest, n.toBinary64 = .infinity (!negative)

section Sums

variable {n : Number} {negative : Bool} {decimals : List Decimal} {numbers rest : List Number}

theorem Number.decimal_ne_nan {x : Decimal} : decimal x ≠ .nan := by
  intro nan
  cases nan

theorem Number.infinity_ne_nan : infinity negative ≠ .nan := by
  intro nan
  cases nan

/-- A number that is not NaN counts as a double with a sign. -/
theorem Number.exists_hasSign (valid : n ≠ .nan) : ∃ negative, n.toBinary64.HasSign negative := by
  cases n with
  | decimal x => exact ⟨_, x.hasSign_toBinary64⟩
  | infinity negative => exact ⟨negative, .infinity⟩
  | nan => exact absurd rfl valid

theorem Number.infinity_add : (infinity negative).add n =
    ofBinary64 ((Binary64.infinity negative).add n.toBinary64) := by
  cases n <;> rfl

/-- An infinity stays what it is, unless it meets what counts as the opposite one. -/
theorem Number.infinity_add_eq_ite (valid : n ≠ .nan) :
    (infinity negative).add n =
      if n.toBinary64 = .infinity (!negative) then .nan else .infinity negative := by
  obtain ⟨sign, counts⟩ := exists_hasSign valid
  rw [infinity_add]
  generalize n.toBinary64 = y at counts
  cases counts with
  | finite m e => rfl
  | infinity => cases negative <;> cases sign <;> rfl

theorem Number.add_infinity : n.add (infinity negative) = (infinity negative).add n := by
  have double : n.add (infinity negative) =
      ofBinary64 (n.toBinary64.add (.infinity negative)) := by
    cases n <;> rfl
  rw [double, infinity_add]
  generalize n.toBinary64 = y
  cases y with
  | nan | finite _ _ _ => rfl
  | infinity sign => cases negative <;> cases sign <;> rfl

theorem foldl_add_nan : rest.foldl Number.add .nan = .nan := by
  induction rest with
  | nil => rfl
  | cons n rest ih =>
    have nan : Number.nan.add n = .nan := by
      cases n <;> rfl
    rw [List.foldl_cons, nan, ih]

/-- Numbers are added to an infinity until the opposite one is among them. -/
theorem foldl_add_infinity (valid : ∀ n ∈ rest, n ≠ .nan) :
    rest.foldl Number.add (.infinity negative) = .nan ↔
      ∃ n ∈ rest, n.toBinary64 = .infinity (!negative) := by
  induction rest with
  | nil => simp
  | cons n rest ih =>
    rw [List.forall_mem_cons] at valid
    rw [List.foldl_cons, Number.infinity_add_eq_ite valid.1, List.exists_mem_cons_iff]
    split
    next opposite =>
      rw [foldl_add_nan]
      exact ⟨fun _ => .inl opposite, fun _ => rfl⟩
    next other =>
      rw [ih valid.2]
      exact (or_iff_right other).symm

/-- The total of numbers of which the first infinity follows decimals. -/
theorem totalOf_decimals_append (valid : ∀ n ∈ rest, n ≠ .nan) :
    totalOf (decimals.map .decimal ++ .infinity negative :: rest) = .nan ↔
      ∃ n ∈ totalOf (decimals.map .decimal) :: rest, n.toBinary64 = .infinity (!negative) := by
  have total : totalOf (decimals.map .decimal) ≠ .nan := by
    rw [totalOf_decimals]
    exact Number.decimal_ne_nan
  have swapped : totalOf (decimals.map .decimal ++ .infinity negative :: rest) =
      (totalOf (decimals.map .decimal) :: rest).foldl Number.add (.infinity negative) := by
    rw [totalOf, List.foldl_append, List.foldl_cons, ← totalOf, Number.add_infinity, List.foldl_cons]
  rw [swapped]
  exact foldl_add_infinity (List.forall_mem_cons.mpr ⟨total, valid⟩)

/-- Numbers are decimals up to the first infinity among them, if there is one. -/
theorem exists_decimals_append (valid : ∀ n ∈ numbers, n ≠ .nan) :
    (∃ decimals : List Decimal, numbers = decimals.map .decimal) ∨
      ∃ (decimals : List Decimal) (negative : Bool) (rest : List Number),
        numbers = decimals.map .decimal ++ .infinity negative :: rest := by
  induction numbers with
  | nil => exact .inl ⟨[], rfl⟩
  | cons n numbers ih =>
    rw [List.forall_mem_cons] at valid
    obtain ⟨first, others⟩ := valid
    cases n with
    | nan => exact absurd rfl first
    | infinity negative => exact .inr ⟨[], negative, numbers, rfl⟩
    | decimal x =>
      rcases ih others with ⟨decimals, rfl⟩ | ⟨decimals, negative, rest, rfl⟩
      · exact .inl ⟨x :: decimals, rfl⟩
      · exact .inr ⟨x :: decimals, negative, rest, rfl⟩

/-- The total of numbers is NaN just if they have none. -/
theorem totalOf_eq_nan_iff (valid : ∀ n ∈ numbers, n ≠ .nan) :
    totalOf numbers = .nan ↔ HasNoTotal numbers := by
  have later : ∀ {decimals : List Decimal} {negative rest},
      numbers = decimals.map .decimal ++ .infinity negative :: rest → ∀ n ∈ rest, n ≠ .nan := by
    rintro decimals negative rest rfl n member
    exact valid n (List.mem_append_right _ (List.mem_cons_of_mem _ member))
  constructor
  · intro undefined
    rcases exists_decimals_append valid with ⟨decimals, rfl⟩ | ⟨decimals, negative, rest, split⟩
    · rw [totalOf_decimals] at undefined
      cases undefined
    · rw [split, totalOf_decimals_append (later split)] at undefined
      exact ⟨decimals, negative, rest, split, undefined⟩
  · rintro ⟨decimals, negative, rest, split, opposite⟩
    rw [split]
    exact (totalOf_decimals_append (later split)).mpr opposite

/-! ## Undefined means -/

/-- A count is a finite double. -/
theorem Number.toBinary64_ofInt_count {count : ℕ} (countable : count ≤ greatestCount) :
    ∃ negative m e, (Number.ofInt count).toBinary64 = .finite negative m e := by
  have coefficient : (Decimal.ofInt count).coeff.natAbs ≤ greatestCount :=
    (Decimal.natAbs_coeff_ofScaled_le count 0).trans countable
  have exact : (Decimal.ofInt count).round = .ofInt count :=
    Decimal.round_of_lt (coefficient.trans_lt (by decide))
  have few : (greatestCount : ℚ) ≤ 10 ^ 300 := by
    calc (greatestCount : ℚ) ≤ 10 ^ 20 := by exact_mod_cast (by decide : greatestCount ≤ 10 ^ 20)
      _ ≤ 10 ^ 300 := pow_le_pow_right₀ (by norm_num) (by decide)
  have bounded : |(Decimal.ofInt count).toRat| ≤ 10 ^ 300 := by
    rw [Decimal.toRat_ofInt, Int.cast_natCast, Nat.abs_cast]
    exact le_trans (by exact_mod_cast countable) few
  have kept : (Decimal.ofInt count).HasDouble := by
    refine ⟨?_, Binary64.isFinite_ofInt_leadingBits ?_⟩
    · exact (by decide : (-308 : ℤ) ≤ 0).trans (Decimal.exp_ofInt_nonneg count)
    · exact le_trans (by exact_mod_cast coefficient) few
  obtain ⟨m, e, double, -⟩ := Decimal.exists_toBinary64? bounded kept
  have view : (Number.ofInt count).toBinary64 =
      .finite ((Decimal.ofInt count).coeff < 0) m e := by
    rw [Number.ofInt, exact, Decimal.toBinary64_eq, double, Option.getD_some]
  exact ⟨_, m, e, view⟩

theorem Number.div?_eq_nan_iff {y : Decimal} (nonzero : (decimal y).isZero = false)
    {m : ℕ} {e : ℤ} (double : (decimal y).toBinary64 = .finite negative m e) :
    n.div? (.decimal y) = .ok .nan ↔ n = .nan := by
  unfold div?
  rw [nonzero, if_neg Bool.false_ne_true]
  cases n with
  | decimal x =>
    exact iff_of_false (fun undefined => decimal_ne_nan (Except.ok.inj undefined)) decimal_ne_nan
  | nan => exact ⟨fun _ => rfl, fun _ => rfl⟩
  | infinity sign =>
    have quotient : viaBinary64 .div (infinity sign) (decimal y) = infinity (sign != negative) := by
      unfold viaBinary64
      rw [double]
      rfl
    change Except.ok (viaBinary64 .div (infinity sign) (decimal y)) = .ok .nan ↔ _
    rw [quotient]
    exact iff_of_false (fun undefined => infinity_ne_nan (Except.ok.inj undefined)) infinity_ne_nan

/-- A mean is NaN just if the total is. -/
theorem meanOf_eq_nan_iff (countable : numbers.length ≤ greatestCount) :
    meanOf numbers = .ok .nan ↔ totalOf numbers = .nan := by
  by_cases nonempty : numbers = []
  · rw [nonempty, meanOf_nil, totalOf, List.foldl_nil]
    refine iff_of_false (fun failed => ?_) Number.decimal_ne_nan
    cases failed
  · obtain ⟨negative, m, e, double⟩ := Number.toBinary64_ofInt_count countable
    rw [← Number.div?_eq_nan_iff (Number.isZero_ofInt_length nonempty) double]
    constructor
    · intro undefined
      unfold meanOf at undefined
      split at undefined
      next quotient =>
        cases undefined
        exact quotient
      next => cases undefined
    · exact meanOf_of_div?

end Sums

/-! ## Results of functions -/

section Functions

variable {x : Operand} {args : List Operand} {cells : List Value} {numbers : List Number}

theorem Operand.not_hasNaN_of_scalars (scalars : ∀ v ∈ x.cells, v.IsScalar (· ≠ .nan)) :
    ¬ x.HasNaN := by
  rintro ⟨v, member, nan⟩
  cases scalars v member with
  | number kind =>
    cases nan
    exact kind rfl
  | null | bool _ | text _ | error _ => cases nan

theorem Operand.hasNaN_ofNumber? {outcome : Except FormulaError Number} :
    (Operand.ofNumber? outcome).HasNaN ↔ outcome = .ok .nan := by
  constructor
  · rintro ⟨v, member, nan⟩
    cases outcome with
    | error e =>
      cases List.mem_singleton.mp member
      cases nan
    | ok n =>
      cases List.mem_singleton.mp member
      cases nan
      rfl
  · rintro rfl
    exact ⟨_, List.mem_singleton.mpr rfl, .number⟩

theorem ne_nan_of_mem_numbersOf (valid : ∀ v ∈ cells, ¬ v.HasNaN) :
    ∀ n ∈ numbersOf cells, n ≠ .nan := by
  rintro n member rfl
  obtain ⟨v, inside, number⟩ := List.mem_filterMap.mp member
  cases v with
  | number n =>
    cases number
    exact valid _ inside .number
  | null | bool _ | text _ | error _ | array _ => cases number

/-- A number that stands for a scalar without NaN is not NaN. -/
theorem Value.ne_nan_of_toNumber? {v : Value} {n : Number} (valid : ¬ v.HasNaN)
    (stands : v.toNumber? = .ok n) : n ≠ .nan := by
  rintro rfl
  cases v with
  | null | bool _ | error _ | array _ => cases stands
  | number n =>
    cases stands
    exact valid .number
  | text s =>
    unfold toNumber? at stands
    dsimp only at stands
    split at stands
    next read =>
      cases stands
      cases Number.kind_of_ofText? Arithmetic.closed_isFinite read
    next => cases stands

theorem Operand.cells_value {v : Value} (scalar : ¬ v.isArray) : (Operand.value v).cells = [v] := by
  cases v with
  | array g => exact absurd rfl scalar
  | null | bool _ | number _ | text _ | error _ => rfl

theorem Operand.Supplies.ne_nan (supplies : x.Supplies numbers) (valid : ¬ x.HasNaN) :
    ∀ n ∈ numbers, n ≠ .nan := by
  cases supplies with
  | range range errorless =>
    exact ne_nan_of_mem_numbersOf fun v member nan => valid ⟨v, member, nan⟩
  | @scalar v n scalar stands =>
    have cell : v ∈ (Operand.value v).cells := by
      rw [Operand.cells_value scalar]
      exact List.mem_singleton.mpr rfl
    exact List.forall_mem_singleton.mpr
      (Value.ne_nan_of_toNumber? (fun nan => valid ⟨v, cell, nan⟩) stands)

theorem ne_nan_of_supplies {groups : List (List Number)} (valid : ∀ x ∈ args, ¬ x.HasNaN)
    (supplied : List.Forall₂ Operand.Supplies args groups) : ∀ n ∈ groups.flatten, n ≠ .nan := by
  induction supplied with
  | nil => exact fun _ member => absurd member List.not_mem_nil
  | cons supplies _ ih =>
    rw [List.forall_mem_cons] at valid
    rw [List.flatten_cons, List.forall_mem_append]
    exact ⟨supplies.ne_nan valid.1, ih valid.2⟩

theorem ne_nan_of_chosenCells {name : String} {allowsTarget : Bool}
    (valid : ∀ x ∈ args, ¬ x.HasNaN) (chosen : chosenCells name allowsTarget args = .ok cells) :
    ∀ n ∈ numbersOf cells, n ≠ .nan := by
  obtain ⟨x, argument, part⟩ := exists_sublist_of_chosenCells chosen
  exact ne_nan_of_mem_numbersOf fun v member nan => valid x argument ⟨v, part.subset member, nan⟩

theorem Function.hasNaN_sum (valid : ∀ x ∈ args, ¬ x.HasNaN) :
    (sum.calculate args).HasNaN ↔
      ∃ groups, List.Forall₂ Operand.Supplies args groups ∧ HasNoTotal groups.flatten := by
  have summed : (sum.calculate args).HasNaN ↔ sumOperands (.ofInt 0) args = .ok .nan := by
    cases args with
    | nil =>
      refine iff_of_false ?_ fun undefined => Number.decimal_ne_nan (Except.ok.inj undefined)
      rintro ⟨v, member, nan⟩
      cases List.mem_singleton.mp member
      cases nan
    | cons x rest => exact Operand.hasNaN_ofNumber?
  rw [summed, sumOperands_eq_ok]
  constructor
  · rintro ⟨groups, supplied, undefined⟩
    exact ⟨groups, supplied, (totalOf_eq_nan_iff (ne_nan_of_supplies valid supplied)).mp undefined.symm⟩
  · rintro ⟨groups, supplied, none⟩
    exact ⟨groups, supplied, ((totalOf_eq_nan_iff (ne_nan_of_supplies valid supplied)).mpr none).symm⟩

theorem Function.hasNaN_sumIf (valid : ∀ x ∈ args, ¬ x.HasNaN) :
    (sumIf.calculate args).HasNaN ↔
      ∃ cells, chosenCells "SUMIF" true args = .ok cells ∧ HasNoTotal (numbersOf cells) := by
  change (Operand.ofNumber? _).HasNaN ↔ _
  rw [Operand.hasNaN_ofNumber?]
  constructor
  · intro undefined
    obtain ⟨cells, chosen, total⟩ := Except.exists_of_map_eq_ok undefined
    exact ⟨cells, chosen, (totalOf_eq_nan_iff (ne_nan_of_chosenCells valid chosen)).mp total⟩
  · rintro ⟨cells, chosen, none⟩
    rw [chosen, Except.map, (totalOf_eq_nan_iff (ne_nan_of_chosenCells valid chosen)).mpr none]

theorem Function.hasNaN_averageIf (valid : ∀ x ∈ args, ¬ x.HasNaN)
    (countable : ∀ x ∈ args, x.cells.length ≤ greatestCount) :
    (averageIf.calculate args).HasNaN ↔
      ∃ cells, chosenCells "AVERAGEIF" true args = .ok cells ∧ HasNoTotal (numbersOf cells) := by
  have mean : ∀ {cells}, chosenCells "AVERAGEIF" true args = .ok cells →
      (meanOf (numbersOf cells) = .ok .nan ↔ HasNoTotal (numbersOf cells)) := by
    intro cells chosen
    obtain ⟨x, argument, part⟩ := exists_sublist_of_chosenCells chosen
    have few : (numbersOf cells).length ≤ greatestCount :=
      ((List.length_filterMap_le _ _).trans part.length_le).trans (countable x argument)
    rw [meanOf_eq_nan_iff few, totalOf_eq_nan_iff (ne_nan_of_chosenCells valid chosen)]
  change (Operand.ofNumber? _).HasNaN ↔ _
  rw [Operand.hasNaN_ofNumber?]
  constructor
  · intro undefined
    obtain ⟨cells, chosen, failed⟩ := Except.exists_of_bind_eq_ok undefined
    exact ⟨cells, chosen, (mean chosen).mp failed⟩
  · rintro ⟨cells, chosen, none⟩
    rw [chosen]
    exact (mean chosen).mpr none

theorem Function.not_hasNaN_countIf : ¬ (countIf.calculate args).HasNaN := by
  change ¬ (Operand.ofNumber? _).HasNaN
  rw [Operand.hasNaN_ofNumber?]
  intro undefined
  obtain ⟨cells, -, count⟩ := Except.exists_of_map_eq_ok undefined
  cases count

/-- NaN does not occur in the result of an operator, for which the error `#NUM!` stands in its place.
Nor is it a count. But sums and means of numbers that are not NaN are NaN just if the numbers that
they add up have no total. -/
theorem hasNaN_of_results (valid : ∀ x ∈ args, ¬ x.HasNaN) :
    (∀ (op : BinaryOperation) (x y : Value), ¬ (op.apply x y).HasNaN) ∧
    (∀ (op : Arithmetic) (m n : Number), op.compute m n = .ok .nan →
      Value.arithmetic op (.number m) (.number n) = .ofErrorKind .number) ∧
    ¬ (Function.countIf.calculate args).HasNaN ∧
    ((Function.sum.calculate args).HasNaN ↔
      ∃ groups, List.Forall₂ Operand.Supplies args groups ∧ HasNoTotal groups.flatten) ∧
    ((Function.sumIf.calculate args).HasNaN ↔
      ∃ cells, chosenCells "SUMIF" true args = .ok cells ∧ HasNoTotal (numbersOf cells)) ∧
    ((∀ x ∈ args, x.cells.length ≤ greatestCount) →
      ((Function.averageIf.calculate args).HasNaN ↔
        ∃ cells, chosenCells "AVERAGEIF" true args = .ok cells ∧ HasNoTotal (numbersOf cells))) :=
  ⟨fun op _ _ => op.not_hasNaN_apply, fun _ _ _ => Value.arithmetic_of_undefined,
    Function.not_hasNaN_countIf, Function.hasNaN_sum valid, Function.hasNaN_sumIf valid,
    Function.hasNaN_averageIf valid⟩

/-- Opposite infinities with another number between them. -/
theorem hasNaN_of_results_opposite :
    let args : List Operand :=
      [.value (.array ⟨1, 3, .replicate 3 (.bool true)⟩), .value (.bool true),
        .value (.array ⟨1, 3, [.number (.infinity false), .ofInt 1, .number (.infinity true)]⟩)]
    (∀ x ∈ args, ¬ x.HasNaN) ∧ (∀ x ∈ args, x.cells.length ≤ greatestCount) ∧
      (Function.sumIf.calculate args).HasNaN ∧ (Function.averageIf.calculate args).HasNaN := by
  intro args
  have truths : ∀ v ∈ List.replicate 3 (Value.bool true), v.IsScalar (· ≠ .nan) := by
    intro v member
    rw [List.eq_of_mem_replicate member]
    exact .bool true
  have numbers : ∀ v ∈ [Value.number (.infinity false), .ofInt 1, .number (.infinity true)],
      v.IsScalar (· ≠ .nan) := by
    simp only [List.forall_mem_cons, List.not_mem_nil, false_implies, implies_true, and_true]
    exact ⟨.number Number.infinity_ne_nan, .number Number.decimal_ne_nan,
      .number Number.infinity_ne_nan⟩
  have valid : ∀ x ∈ args, ¬ x.HasNaN := by
    simp only [args, List.forall_mem_cons, List.not_mem_nil, false_implies, implies_true, and_true]
    exact ⟨Operand.not_hasNaN_of_scalars truths,
      Operand.not_hasNaN_of_scalars (List.forall_mem_singleton.mpr (.bool true)),
      Operand.not_hasNaN_of_scalars numbers⟩
  have countable : ∀ x ∈ args, x.cells.length ≤ greatestCount := by decide
  have none : HasNoTotal [.infinity false, .ofInt 1, .infinity true] :=
    ⟨[], false, [.ofInt 1, .infinity true], rfl, .infinity true, by simp, rfl⟩
  obtain ⟨-, -, -, -, sumIf, averageIf⟩ := hasNaN_of_results valid
  exact ⟨valid, countable, sumIf.mpr ⟨_, rfl, none⟩, (averageIf countable).mpr ⟨_, rfl, none⟩⟩

/-- The sum of opposite infinities is NaN, where the operator reports an error. -/
theorem Function.sum_of_opposite_infinities :
    let args : List Operand := [.value (.number (.infinity false)), .value (.number (.infinity true))]
    (∀ x ∈ args, ¬ x.HasNaN) ∧ sum.calculate args = .value (.number .nan) ∧
      (sum.calculate args).HasNaN ∧
      Value.plus (.number (.infinity false)) (.number (.infinity true)) = .ofErrorKind .number := by
  intro args
  have valid : ∀ x ∈ args, ¬ x.HasNaN := by
    simp only [args, List.forall_mem_cons, List.not_mem_nil, false_implies, implies_true, and_true]
    constructor <;>
      exact Operand.not_hasNaN_of_scalars
        (List.forall_mem_singleton.mpr (.number Number.infinity_ne_nan))
  have sum : Function.sum.calculate args = .value (.number .nan) := by rfl
  refine ⟨valid, sum, ?_, rfl⟩
  rw [sum]
  exact ⟨_, List.mem_singleton.mpr rfl, .number⟩

end Functions

end Spreadsheet
