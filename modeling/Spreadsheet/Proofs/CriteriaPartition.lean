import Spreadsheet.Function.Standard
import Spreadsheet.Proofs.Operands

/-!
# Criteria of equality and of inequality

Criteria that ask for equality with a text and criteria that ask for inequality read the same
literal from it and ask opposite questions: by order, where values without an order count as
different, and by pattern, where a pattern that is refused is different from every text. So a cell
without an error meets just one of the two, a cell with an error neither (`Criteria.accepts_cases`),
and what the two count adds up to the cells without errors (`Function.countIf_partition`).
-/

namespace Spreadsheet

/-! ## Opposite questions -/

theorem Relation.holds_notEqual (order : Option Ordering) :
    notEqual.holds order = !equal.holds order := by
  cases order with
  | none => rfl
  | some o => cases o <;> rfl

section Questions

variable {v w : Value}

/-- Next to a scalar, inequality is the opposite of equality. -/
theorem Value.exists_scalarRelates (v w : Value) :
    ∃ b, scalarRelates .equal v w = .bool b ∧ scalarRelates .notEqual v w = .bool !b :=
  ⟨_, rfl, congrArg bool (Relation.holds_notEqual _)⟩

/-- So it is next to a pattern, whether or not it can be matched. -/
theorem Value.exists_scalarMatches (v w : Value) :
    ∃ b, scalarMatches .equal v w = .bool b ∧ scalarMatches .notEqual v w = .bool !b := by
  cases v with
  | text s =>
    cases w with
    | text p => exact ⟨_, rfl, rfl⟩
    | _ => exact exists_scalarRelates _ _
  | _ => exact exists_scalarRelates _ _

/-- Two scalars that are no errors are combined directly. -/
theorem Value.broadcast_of_scalars (op : Value → Value → Value) (left : ¬ v.isArray)
    (left' : ¬ v.isError) (right : ¬ w.isArray) (right' : ¬ w.isError) :
    broadcast op v w = op v w := by
  have mapped : mapScalars (op v) w = op v w := by
    cases w with
    | array g => exact absurd rfl right
    | error e => exact absurd rfl right'
    | _ => rfl
  cases v with
  | array g => exact absurd rfl left
  | error e => exact absurd rfl left'
  | _ => exact mapped

/-- A cell that is no error meets one of two criteria for equality and for inequality. -/
theorem Criteria.accepts_notEqual (left : ¬ v.isArray) (left' : ¬ v.isError)
    (right : ¬ w.isArray) (right' : ¬ w.isError) :
    (Criteria.mk .notEqual w).accepts v = !(Criteria.mk .equal w).accepts v := by
  have opposite : ∀ op : Relation → Value → Value → Value,
      (∃ b, op .equal v w = .bool b ∧ op .notEqual v w = .bool !b) →
        decide ((Value.broadcast (op .notEqual) v w).asBool? = some true) =
          !decide ((Value.broadcast (op .equal) v w).asBool? = some true) := by
    rintro op ⟨b, equal, different⟩
    rw [Value.broadcast_of_scalars _ left left' right right',
      Value.broadcast_of_scalars _ left left' right right', equal, different]
    cases b <;> rfl
  have pattern : (Criteria.mk .notEqual w).isPattern = (Criteria.mk .equal w).isPattern := rfl
  rw [accepts, accepts, pattern]
  split
  · exact opposite .scalarMatches (Value.exists_scalarMatches v w)
  · exact opposite .scalarRelates (Value.exists_scalarRelates v w)

/-- An error meets no criteria. -/
theorem Criteria.accepts_error (c : Criteria) (e : FormulaError) : c.accepts (.error e) = false := by
  rw [accepts]
  split <;> rfl

end Questions

/-! ## Criteria with the same literal -/

/-- The value that a criteria compares with, for the text after its relation. -/
def Value.ofComparand (t : String) : Value :=
  if t.toList.isEmpty then .text "" else .ofLiteral t

section Texts

variable {t : String} {v : Value}

theorem Criteria.ofText_equal (t : String) : ofText ("=" ++ t) = ⟨.equal, .ofComparand t⟩ := by
  have split : Relation.split? ("=" ++ t).toList = some (.equal, t.toList) := by
    rw [String.toList_append]
    rfl
  simp only [ofText, split, Option.getD_some, String.ofList_toList, Value.ofComparand]

theorem Criteria.ofText_notEqual (t : String) :
    ofText ("<>" ++ t) = ⟨.notEqual, .ofComparand t⟩ := by
  have split : Relation.split? ("<>" ++ t).toList = some (.notEqual, t.toList) := by
    rw [String.toList_append]
    rfl
  simp only [ofText, split, Option.getD_some, String.ofList_toList, Value.ofComparand]

theorem Value.not_isArray_ofComparand (t : String) : ¬ (ofComparand t).isArray := by
  rw [ofComparand]
  split
  · exact Bool.false_ne_true
  · exact (Value.isScalar_ofLiteral Arithmetic.closed_true t).not_isArray

theorem Value.not_isError_ofComparand (literal : ¬ (ofLiteral t).isError) :
    ¬ (ofComparand t).isError := by
  rw [ofComparand]
  split
  · exact Bool.false_ne_true
  · exact literal

/-- Of the criteria for equality with a text and for inequality a cell without an error meets just
one, and a cell with an error neither. -/
theorem Criteria.accepts_cases (literal : ¬ (Value.ofLiteral t).isError) (scalar : ¬ v.isArray) :
    if v.isError then
      (ofText ("=" ++ t)).accepts v = false ∧ (ofText ("<>" ++ t)).accepts v = false
    else (ofText ("<>" ++ t)).accepts v = !(ofText ("=" ++ t)).accepts v := by
  rw [ofText_equal, ofText_notEqual]
  split
  · rename_i error
    cases v with
    | error e => exact ⟨accepts_error _ e, accepts_error _ e⟩
    | null | bool _ | number _ | text _ | array _ => cases error
  · rename_i right
    exact accepts_notEqual scalar right (Value.not_isArray_ofComparand t)
      (Value.not_isError_ofComparand literal)

end Texts

/-! ## Counting -/

/-- Whether no cell of an operand is an array. The cells of a reference never are. -/
def Operand.IsFlat : Operand → Prop
  | .value (.array g) => ∀ v ∈ g.cells, ¬ v.isArray
  | _ => True

section Counting

variable {x : Operand} {t : String}

theorem Operand.IsFlat.not_isArray (flat : x.IsFlat) : ∀ v ∈ x.cells, ¬ v.isArray := by
  match x, flat with
  | .reference r, _ =>
    intro v member
    obtain ⟨p, -, rfl⟩ := List.mem_map.mp member
    exact r.not_isArray_read p
  | .value (.array g), flat => exact flat
  | .value .null, _ | .value (.bool _), _ | .value (.number _), _ | .value (.text _), _
  | .value (.error _), _ => exact List.forall_mem_singleton.mpr Bool.false_ne_true

/-- Conditions that split the elements of a list split their number. -/
theorem countP_add_countP {α : Type} {p q r : α → Bool} {l : List α}
    (split : ∀ x ∈ l, if r x then q x = !p x else p x = false ∧ q x = false) :
    l.countP p + l.countP q = l.countP r := by
  induction l with
  | nil => rfl
  | cons x rest ih =>
    rw [List.forall_mem_cons] at split
    have here : (if p x then 1 else 0) + (if q x then 1 else 0) = if r x then 1 else 0 := by
      have first := split.1
      cases hr : r x <;> cases hp : p x <;> simp_all
    rw [List.countP_cons, List.countP_cons, List.countP_cons, ← ih split.2, ← here]
    omega

/-- A range without another target is filtered by the condition. -/
theorem chooseCells_self (name : String) {criteria : Operand} {c : Criteria}
    (range : x.asError? = none) (condition : Criteria.ofOperand? criteria = .ok c) :
    chooseCells name x criteria x = .ok (x.cells.filter c.accepts) := by
  have paired : x.cells.zip x.cells = x.cells.map fun v => (v, v) := by
    rw [List.zip_eq_zipWith, List.zipWith_self]
  have chosen : ((x.cells.zip x.cells).filter fun pair => c.accepts pair.1).map (·.2) =
      x.cells.filter c.accepts := by
    rw [paired, List.filter_map, List.map_map]
    exact List.map_id _
  simp only [chooseCells, range, condition, ne_eq, not_true_eq_false, if_false]
  exact congrArg Except.ok chosen

/-- The cells that meet a condition written in a text are counted. -/
theorem Function.calculate_countIf (range : x.asError? = none) (s : String) :
    Function.countIf.calculate [x, .value (.text s)] =
      .value (.ofInt (x.cells.countP (Criteria.ofText s).accepts)) := by
  have condition : Criteria.ofOperand? (.value (.text s)) = .ok (.ofText s) := rfl
  have chosen := chooseCells_self "COUNTIF" range condition
  rw [List.countP_eq_length_filter]
  simp only [Function.countIf, chosenCells, chosen]
  rfl

/-- Equality with a text and inequality split every range. Of its cells without errors, whatever
they hold, each is counted by just one of the two criteria, and a cell with an error by neither, so
that the two counts add up. -/
theorem Function.countIf_partition (range : x.asError? = none) (flat : x.IsFlat)
    (literal : ¬ (Value.ofLiteral t).isError) :
    ∃ equal different : Nat,
      Function.countIf.calculate [x, .value (.text ("=" ++ t))] = .value (.ofInt equal) ∧
      Function.countIf.calculate [x, .value (.text ("<>" ++ t))] = .value (.ofInt different) ∧
      equal + different = x.cells.countP (fun v => !v.isError) ∧
      ∀ v ∈ x.cells,
        if v.isError then
          (Criteria.ofText ("=" ++ t)).accepts v = false ∧
            (Criteria.ofText ("<>" ++ t)).accepts v = false
        else (Criteria.ofText ("<>" ++ t)).accepts v = !(Criteria.ofText ("=" ++ t)).accepts v := by
  have each := fun v member => Criteria.accepts_cases literal (flat.not_isArray v member)
  refine ⟨_, _, calculate_countIf range _, calculate_countIf range _,
    countP_add_countP fun v member => ?_, each⟩
  have here := each v member
  cases error : v.isError <;> simpa [error] using here

/-- A pattern splits the text, the blank and the number without an order from each other, and leaves
out the error. -/
theorem Function.countIf_partition_pattern :
    let x : Operand := .value (.array
      ⟨2, 2, [.text "tent", .null, .number .nan, .ofErrorKind .notAvailable]⟩)
    x.asError? = none ∧ x.IsFlat ∧ ¬ (Value.ofLiteral "te?t").isError ∧
      ∃ equal different : Nat,
        Function.countIf.calculate [x, .value (.text ("=" ++ "te?t"))] =
          .value (.ofInt equal) ∧
        Function.countIf.calculate [x, .value (.text ("<>" ++ "te?t"))] =
          .value (.ofInt different) ∧
        equal + different = 3 := by
  intro x
  have flat : x.IsFlat := by
    simp [x, Operand.IsFlat, Value.isArray, Value.ofErrorKind]
  have literal : ¬ (Value.ofLiteral "te?t").isError := by decide +kernel
  obtain ⟨equal, different, counted, others, total, -⟩ := countIf_partition rfl flat literal
  exact ⟨rfl, flat, literal, equal, different, counted, others, total⟩

end Counting

end Spreadsheet
