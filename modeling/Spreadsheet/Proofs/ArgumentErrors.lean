import Spreadsheet.Function.Conditional

/-!
# Errors among the arguments of conditional functions

A conditional function that is given an error comes out as that error, kind and message unchanged,
whatever its other arguments are. Of several errors the leftmost wins, but for one case: the target
is looked at before the condition, so an error there hides the one of the condition to its left
(`Function.calculate_leftmost_error`).

All of this happens where the cells are chosen, which the three functions share
(`chosenCells_of_error`). A condition of many cells or ranges of different shapes are failures too,
and come after all errors among the arguments.
-/

namespace Spreadsheet

/-- The arguments in the order in which they are looked at for errors: the condition comes last. -/
def inErrorOrder : List Operand → List Operand
  | range :: criteria :: targets => range :: (targets ++ [criteria])
  | args => args

/-- Whether an error of the condition is hidden by one of the target to its right. -/
def HidesCondition (args : List Operand) : Prop :=
  ∃ range criteria target : Operand, args = [range, criteria, target] ∧ range.asError? = none ∧
    criteria.asError?.isSome ∧ target.asError?.isSome

section Errors

variable {range criteria target : Operand} {args : List Operand} {e : FormulaError}

theorem Operand.eq_ofError (error : criteria.asError? = some e) : criteria = .ofError e := by
  cases criteria with
  | reference r => cases error
  | value v =>
    cases v with
    | error d =>
      cases error
      rfl
    | null | bool _ | number _ | text _ | array _ => cases error

/-- An error is found before a condition is read, unless it is the condition. -/
theorem chooseCells_of_error {name : String}
    (first : [range, target, criteria].findSome? Operand.asError? = some e) :
    chooseCells name range criteria target = .error e := by
  unfold chooseCells
  cases left : range.asError? with
  | some d =>
    rw [List.findSome?_cons, left] at first
    cases first
    rfl
  | none =>
    rw [List.findSome?_cons, left] at first
    cases right : target.asError? with
    | some d =>
      rw [List.findSome?_cons, right] at first
      cases first
      rfl
    | none =>
      rw [List.findSome?_cons, right, List.findSome?_singleton] at first
      rw [Operand.eq_ofError first]
      rfl

/-- The first error in this order is the failure of every choice of cells. -/
theorem chosenCells_of_error {name : String} {allowsTarget : Bool}
    (taken : args.length = 2 ∨ args.length = 3 ∧ allowsTarget)
    (first : (inErrorOrder args).findSome? Operand.asError? = some e) :
    chosenCells name allowsTarget args = .error e := by
  match args, taken with
  | [range, criteria], _ =>
    -- Without a target the range is looked at twice.
    refine chooseCells_of_error ?_
    rw [inErrorOrder, List.nil_append] at first
    cases left : range.asError? with
    | some d =>
      rw [List.findSome?_cons, left] at first ⊢
      exact first
    | none =>
      rw [List.findSome?_cons, left]
      exact first
  | [range, criteria, target], taken =>
    rcases taken with two | ⟨-, allowed⟩
    · cases two
    · rw [allowed]
      exact chooseCells_of_error first
  | [], taken | [_], taken | _ :: _ :: _ :: _ :: _, taken =>
    rcases taken with two | ⟨three, -⟩
    · cases two
    · cases three

/-- Where no error of the condition is hidden, the first error in this order is the leftmost. -/
theorem findSome?_inErrorOrder (visible : ¬ HidesCondition args) (taken : args.length ≤ 3) :
    (inErrorOrder args).findSome? Operand.asError? = args.findSome? Operand.asError? := by
  match args, taken with
  | [], _ | [_], _ | [_, _], _ => rfl
  | [range, criteria, target], _ =>
    rw [inErrorOrder, List.singleton_append]
    cases left : range.asError? with
    | some d => simp only [List.findSome?_cons, left]
    | none =>
      cases middle : criteria.asError? with
      | none => simp only [List.findSome?_cons, List.findSome?_nil, left, middle]
      | some d =>
        cases right : target.asError? with
        | none => simp only [List.findSome?_cons, left, middle, right]
        | some d' =>
          refine absurd ⟨range, criteria, target, rfl, left, ?_, ?_⟩ visible
          · rw [middle, Option.isSome_some]
          · rw [right, Option.isSome_some]

end Errors

/-! ## The functions -/

section Functions

variable {f : Function} {args : List Operand} {e : FormulaError}

/-- A conditional function takes a range, a condition and perhaps a target, and fails as the choice
of the cells does. -/
theorem Function.exists_chosenCells
    (conditional : f ∈ [Function.sumIf, Function.countIf, Function.averageIf]) :
    ∃ (name : String) (allowsTarget : Bool), f.info.arity = (2, if allowsTarget then 3 else 2) ∧
      ∀ args e, chosenCells name allowsTarget args = .error e → f.calculate args = .ofError e := by
  rw [List.mem_cons, List.mem_cons, List.mem_singleton] at conditional
  rcases conditional with rfl | rfl | rfl
  · refine ⟨"SUMIF", true, rfl, fun args e failed => ?_⟩
    simp only [sumIf, failed]
    rfl
  · refine ⟨"COUNTIF", false, rfl, fun args e failed => ?_⟩
    simp only [countIf, failed]
    rfl
  · refine ⟨"AVERAGEIF", true, rfl, fun args e failed => ?_⟩
    simp only [averageIf, failed]
    rfl

/-- A conditional function comes out as the first error in this order. -/
theorem Function.calculate_of_error
    (conditional : f ∈ [Function.sumIf, Function.countIf, Function.averageIf])
    (taken : f.info.arity.1 ≤ args.length ∧ args.length ≤ f.info.arity.2)
    (first : (inErrorOrder args).findSome? Operand.asError? = some e) :
    f.calculate args = .ofError e := by
  rcases exists_chosenCells conditional with ⟨name, allowsTarget, arity, fails⟩
  rw [arity] at taken
  refine fails args e (chosenCells_of_error ?_ first)
  cases allowsTarget with
  | false => exact .inl (Nat.le_antisymm taken.2 taken.1)
  | true =>
    rcases Nat.lt_or_eq_of_le taken.2 with two | three
    · exact .inl (Nat.le_antisymm (Nat.le_of_lt_succ two) taken.1)
    · exact .inr ⟨three, rfl⟩

theorem Function.length_le_of_conditional
    (conditional : f ∈ [Function.sumIf, Function.countIf, Function.averageIf]) :
    f.info.arity.2 ≤ 3 := by
  rcases exists_chosenCells conditional with ⟨name, allowsTarget, arity, -⟩
  rw [arity]
  cases allowsTarget <;> decide

/-- An error among the arguments is what a conditional function comes out as, kind and message
unchanged, whatever the other arguments are. Of several errors it is the leftmost, unless an error
of the target hides one of the condition: the target comes before the condition. -/
theorem Function.calculate_leftmost_error
    (conditional : f ∈ [Function.sumIf, Function.countIf, Function.averageIf])
    (taken : f.info.arity.1 ≤ args.length ∧ args.length ≤ f.info.arity.2)
    (leftmost : args.findSome? Operand.asError? = some e) :
    (¬ HidesCondition args → f.calculate args = .ofError e) ∧
      ∀ (range criteria target : Operand) (later : FormulaError),
        args = [range, criteria, target] → range.asError? = none →
          target.asError? = some later → f.calculate args = .ofError later := by
  constructor
  · intro visible
    refine calculate_of_error conditional taken ?_
    have few : args.length ≤ 3 := Nat.le_trans taken.2 (length_le_of_conditional conditional)
    rw [findSome?_inErrorOrder visible few, leftmost]
  · rintro range criteria target later rfl left right
    refine calculate_of_error conditional taken ?_
    rw [inErrorOrder, List.singleton_append, List.findSome?_cons, left, List.findSome?_cons, right]

/-- The error of a condition keeps its message, though the ranges around it have different
shapes. -/
theorem Function.calculate_leftmost_error_of_condition :
    let e : FormulaError := ⟨.notAvailable, some "no rate"⟩
    let args : List Operand := [.value (.array ⟨1, 2, [.ofInt 1, .null]⟩), .ofError e,
      .value (.array ⟨2, 1, [.ofInt 2, .ofErrorKind .number]⟩)]
    Function.sumIf ∈ [Function.sumIf, Function.countIf, Function.averageIf] ∧
      (Function.sumIf.info.arity.1 ≤ args.length ∧ args.length ≤ Function.sumIf.info.arity.2) ∧
      args.findSome? Operand.asError? = some e ∧ ¬ HidesCondition args ∧
      Function.sumIf.calculate args = .ofError e := by
  intro e args
  have conditional : Function.sumIf ∈ [Function.sumIf, Function.countIf, Function.averageIf] :=
    List.mem_cons_self
  have taken : Function.sumIf.info.arity.1 ≤ args.length ∧
      args.length ≤ Function.sumIf.info.arity.2 := by decide
  have visible : ¬ HidesCondition args := by
    rintro ⟨range, criteria, target, same, -, -, error⟩
    simp only [args, List.cons.injEq] at same
    rcases same with ⟨rfl, rfl, rfl, -⟩
    exact Bool.false_ne_true error
  exact ⟨conditional, taken, rfl, visible,
    (calculate_leftmost_error conditional taken rfl).1 visible⟩

/-- The error of a condition does not win over one of the target to its right. -/
theorem Function.not_leftmost_error :
    ¬ ∀ f ∈ [Function.sumIf, Function.countIf, Function.averageIf],
      ∀ (args : List Operand) (e : FormulaError),
        (f.info.arity.1 ≤ args.length ∧ args.length ≤ f.info.arity.2) →
          args.findSome? Operand.asError? = some e → f.calculate args = .ofError e := by
  intro wins
  have here := wins .sumIf List.mem_cons_self
    [.value (.ofInt 1), .ofError ⟨.notAvailable, none⟩, .ofError ⟨.reference, none⟩]
    ⟨.notAvailable, none⟩ (by decide) rfl
  have hidden : Function.sumIf.calculate
      [.value (.ofInt 1), .ofError ⟨.notAvailable, none⟩, .ofError ⟨.reference, none⟩] =
        .ofError ⟨.reference, none⟩ := rfl
  rw [hidden] at here
  cases here

end Functions

end Spreadsheet
