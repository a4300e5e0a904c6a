import Spreadsheet.Proofs.PostOrder

/-!
# The first error

In a tree of operators the error that is raised first, in post-order, is the result of the tree,
kind and message as it has been raised (`Session.error_of_operators`). A node raises an error if it
is a leaf with an error for a value, or if its operator makes an error out of operands without
errors.

All that this needs of the operators is `Operator.apply_error`: the first error among the operands
comes out unchanged. It is the same for all of them because they extend operations on scalars in the
same way, by `Value.broadcast`, whichever operand a unary one puts on which side.
-/

namespace Spreadsheet

/-! ## Operators -/

/-- The first of two errors wins. -/
theorem Value.broadcast_of_error {op : Value → Value → Value} {x y : Value} {e : FormulaError}
    (first : [x, y].findSome? Value.asError? = some e) : Value.broadcast op x y = .error e := by
  cases x with
  | error d =>
    cases first
    rfl
  | null | bool _ | number _ | text _ | array _ =>
    cases y with
    | error d =>
      cases first
      rfl
    | null | bool _ | number _ | text _ | array _ => cases first

/-- The first error among the operands of an operator is what it yields. -/
theorem Operator.apply_error {op : Operator} {operands : List Value} {e : FormulaError}
    (arity : operands.length = op.arity) (first : operands.findSome? Value.asError? = some e) :
    op.apply operands = .error e := by
  match op, operands with
  | .arithmetic _, [x, y] | .concatenate, [x, y] | .compare _, [x, y] =>
    exact Value.broadcast_of_error first
  | .negate, [x] => exact Value.broadcast_of_error first
  | .percent, [x] =>
    cases x with
    | error d => exact Value.broadcast_of_error first
    | null | bool _ | number _ | text _ | array _ => cases first
  | .unaryPlus, [x] =>
    cases x with
    | error d =>
      cases first
      rfl
    | null | bool _ | number _ | text _ | array _ => cases first

/-! ## Trees of operators -/

/-- Whether a tree is made of operators, each with as many operands as it takes, and of leaves:
constants, errors, references and parameters. -/
inductive Node.IsOperatorTree : Node → Prop
  | literal {token : String} {v : Value} {kept : Option Operand} :
      IsOperatorTree (.literal token v kept)
  | failure {token : String} {e : FormulaError} {kept : Option Operand} :
      IsOperatorTree (.failure token e kept)
  | reference {token unit sheet : String} {range : Range} {kept : Option Operand} :
      IsOperatorTree (.reference token unit sheet range kept)
  | parameter {token : String} {scope : Scope} {kept : Option Operand} :
      IsOperatorTree (.parameter token scope kept)
  | operator {token : String} {op : Operator} {operands : List Node} {kept : Option Operand}
      (arity : operands.length = op.arity) (each : ∀ n ∈ operands, IsOperatorTree n) :
      IsOperatorTree (.operator token op operands kept)

/-- The value of a node that has been evaluated. -/
def Node.value (n : Node) : Value :=
  n.operand.force

/-- The error that an evaluated node raises: the one that a leaf has for a value, and the one that an
operator makes out of operands none of which is an error. -/
def Node.raised? : Node → Option FormulaError
  | .operator _ op operands _ =>
    if operands.any (·.value.isError) then none else (op.apply (operands.map Node.value)).asError?
  | leaf => leaf.value.asError?

theorem Value.isError_iff {v : Value} : v.isError ↔ v.asError?.isSome := by
  cases v <;> simp [isError, asError?]

theorem Node.findSome?_raised?_visited {below : List Node}
    (each : ∀ m ∈ below, m.value.asError? = m.visited.findSome? raised?) :
    (below.flatMap visited).findSome? raised? = (below.map value).findSome? Value.asError? := by
  induction below with
  | nil => rfl
  | cons first rest ih =>
    rw [List.forall_mem_cons] at each
    rw [List.flatMap_cons, List.findSome?_append, ih each.2, ← each.1, List.map_cons,
      List.findSome?_cons]
    cases first.value.asError? <;> rfl

section Evaluation

variable {s : Surroundings} {awaits : Function → Bool}

/-- An operator yields the first error of its operands, or one that it raises itself. -/
theorem Operator.asError?_apply {op : Operator} {operands : List Value}
    (arity : operands.length = op.arity) :
    (op.apply operands).asError? =
      (operands.findSome? Value.asError?).or
        (if operands.any Value.isError then none else (op.apply operands).asError?) := by
  cases first : operands.findSome? Value.asError? with
  | some e => rw [apply_error arity first, Value.asError?, Option.some_or]
  | none =>
    have without : operands.any Value.isError = false := by
      rw [List.any_eq_false]
      intro v member error
      rw [Value.isError_iff, List.findSome?_eq_none_iff.mp first v member] at error
      cases error
    rw [without, if_neg Bool.false_ne_true, Option.none_or]

/-- The value of an evaluated tree of operators is the error that is raised first in it, if one is
raised at all. -/
theorem Node.IsOperatorTree.asError?_evaluate {n : Node} (tree : n.IsOperatorTree)
    (env : Environment) :
    let m := (n.evaluate s awaits env).1
    m.value.asError? = m.visited.findSome? raised? := by
  have leaf : ∀ m : Node, m.visited = [m] → m.raised? = m.value.asError? →
      m.value.asError? = m.visited.findSome? raised? := by
    intro m alone raised
    rw [alone, List.findSome?_singleton, raised]
  induction tree generalizing env with
  | literal | failure | reference | parameter => exact leaf _ rfl rfl
  | @operator token op operands kept arity _ ih =>
    let r := Node.evaluateAll s awaits env operands
    have inOperands : ∀ m ∈ r.1, m.value.asError? = m.visited.findSome? raised? := by
      intro m member
      obtain ⟨n, inside, env', rfl⟩ := exists_evaluate_of_mem member
      exact ih n inside env'
    have evaluated : (r.1.map Node.value).length = op.arity := by
      rw [List.length_map, length_evaluateAll, arity]
    let m := Node.operator token op r.1 (some (op.applyTo r.1))
    have visits : m.visited = r.1.flatMap visited ++ [m] := by
      rw [visited_eq]
      exact congrArg (· ++ [m]) (List.append_nil _)
    calc m.value.asError?
      _ = (op.apply (r.1.map Node.value)).asError? := rfl
      _ = ((r.1.map Node.value).findSome? Value.asError?).or m.raised? := by
        rw [Operator.asError?_apply evaluated, List.any_map]
        rfl
      _ = m.visited.findSome? raised? := by
        rw [visits, List.findSome?_append, findSome?_raised?_visited inOperands,
          List.findSome?_singleton]

/-- Of visits in post-order, the first at which something is found precedes all others. -/
theorem InPostOrder.exists_of_findSome? {visits : List Visit} (ordered : InPostOrder visits)
    {α : Type} {find : Node → Option α} {x : α}
    (found : (visits.map Visit.node).findSome? find = some x) :
    ∃ v ∈ visits, find v.node = some x ∧
      ∀ w ∈ visits, (find w.node).isSome → w.place = v.place ∨ Place.Precedes v.place w.place := by
  rw [List.findSome?_map, List.findSome?_eq_some_iff] at found
  obtain ⟨before, v, after, rfl, here, without⟩ := found
  refine ⟨v, by simp, here, fun w member another => ?_⟩
  rcases List.mem_append.mp member with earlier | later
  · have nothing : find w.node = none := without w earlier
    rw [nothing] at another
    cases another
  rcases List.mem_cons.mp later with rfl | later
  · exact .inl rfl
  · have tail := (List.pairwise_append.mp ordered).2.1
    exact .inr ((List.pairwise_cons.mp tail).1 w later)

/-- The first error wins. The value of a tree of operators is an error exactly if some node of the
tree raises one; then it is the error of the node that raises one before all others, in post-order,
with the kind and the message that it has there. -/
theorem Session.error_of_operators {s : Session} {awaiting : Bool} {f : Formula}
    (tree : f.root.IsOperatorTree) :
    let e := s.evaluate awaiting (some f)
    ∃ g : Formula, e.formula = some g ∧ g.root.unevaluated = f.root.unevaluated ∧
      (e.result.force.isError ↔ ∃ p n, g.root.Reaches p n ∧ n.raised?.isSome) ∧
      ∀ x, e.result.force = .error x → ∃ p n, g.root.Reaches p n ∧ n.raised? = some x ∧
        ∀ q m, g.root.Reaches q m → m.raised?.isSome → q = p ∨ Place.Precedes p q := by
  intro e
  let r := f.root.evaluate s.surroundings (awaitsWhen awaiting) f.environment
  have result : e = ⟨r.1.operand, some ⟨r.1, r.2⟩, r.1.callsMade (awaitsWhen awaiting)⟩ :=
    evaluate_eq
  have value : e.result.force = r.1.value := congrArg (fun e => e.result.force) result
  have first : r.1.value.asError? = r.1.visited.findSome? Node.raised? :=
    tree.asError?_evaluate f.environment
  refine ⟨⟨r.1, r.2⟩, congrArg Evaluation.formula result, Node.unevaluated_evaluate _ _, ?_,
    fun x error => ?_⟩
  · rw [value, Value.isError_iff, first, List.findSome?_isSome_iff]
    constructor
    · rintro ⟨n, visited, raised⟩
      obtain ⟨v, inside, rfl⟩ := List.mem_map.mp visited
      exact ⟨v.place, v.node, Node.mem_visits.mp inside, raised⟩
    · rintro ⟨p, n, reached, raised⟩
      exact ⟨n, List.mem_map.mpr ⟨⟨p, n⟩, Node.mem_visits.mpr reached, rfl⟩, raised⟩
  · rw [value] at error
    rw [error] at first
    obtain ⟨v, visited, raised, earliest⟩ :=
      r.1.inPostOrder_visits.exists_of_findSome? first.symm
    exact ⟨v.place, v.node, Node.mem_visits.mp visited, raised, fun q m reached another =>
      earliest ⟨q, m⟩ (Node.mem_visits.mpr reached) another⟩

/-- A text as a factor, to whose product an error is added: the error of the product wins. -/
theorem Session.error_of_text_factor :
    let s : Session := { config := { unit := "book", sheet := "one" } }
    let product := Node.operator "*" (.arithmetic .times)
      [.literal "a" (.text "a") none, .reference "A1" "book" "one" ⟨0, 0, 0, 0⟩ none] none
    let f : Formula :=
      ⟨.operator "+" (.arithmetic .plus) [product, .failure "B" ⟨.reference, none⟩ none] none, {}⟩
    f.root.IsOperatorTree ∧ ∃ g : Formula, (s.evaluate false (some f)).formula = some g ∧
      ∃ p n, g.root.Reaches p n ∧ n.raised? = some (.mismatch "Number" "Text") ∧
        ∀ q m, g.root.Reaches q m → m.raised?.isSome → q = p ∨ Place.Precedes p q := by
  intro s product f
  have factors : product.IsOperatorTree := by
    refine .operator rfl ?_
    simp only [List.forall_mem_cons]
    exact ⟨.literal, .reference, fun n member => absurd member List.not_mem_nil⟩
  have tree : f.root.IsOperatorTree := by
    refine .operator rfl ?_
    simp only [List.forall_mem_cons]
    exact ⟨factors, .failure, fun n member => absurd member List.not_mem_nil⟩
  obtain ⟨g, formula, -, -, first⟩ := @error_of_operators s false f tree
  exact ⟨tree, g, formula, first (.mismatch "Number" "Text") rfl⟩

end Evaluation

end Spreadsheet
