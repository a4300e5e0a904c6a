import Spreadsheet.Proofs.Correspondence

/-!
# Evaluating a formula again

A formula keeps results in its nodes and bindings in its scopes from one evaluation to the next, and
the next one may see other cells, have other limits, or wait where the earlier one did not. Nothing
that has been kept is ever seen: `Session.evaluate_afterEvaluations` compares an evaluation after
any others with that of a formula that has just been built.

What carries the induction is that parameters look only into scopes of lambdas around them
(`Node.ScopedIn`), and that each of these has been bound by the same evaluation before its body is
entered (`Environment.Related.bindArguments`). So two evaluations that agree on no scope at all in
the beginning agree wherever it matters. Results that stay behind in the body of a lambda that the
evaluation does not enter are set apart by `Node.reached`.
-/

namespace Spreadsheet

/-! ## Results of the last evaluation -/

mutual

/-- The node with the results of the nodes that its last evaluation has reached. It has not reached
the body of a lambda without an invocation or with too many arguments, where results of an earlier
evaluation may remain. -/
def Node.reached : Node → Node
  | .operator token op operands kept => .operator token op (Node.reachedAll operands) kept
  | .function token f arguments kept => .function token f (Node.reachedAll arguments) kept
  | .lambda token parameters scope body none kept =>
    .lambda token parameters scope body.unevaluated none kept
  | .lambda token parameters scope body (some arguments) kept =>
    .lambda token parameters scope
      (if parameters.length < arguments.length then body.unevaluated else Node.reached body)
      (some (Node.reachedAll arguments)) kept
  | leaf => leaf

/-- Each of several nodes with the results of the nodes that have been reached. -/
def Node.reachedAll : List Node → List Node
  | [] => []
  | n :: rest => Node.reached n :: Node.reachedAll rest

end

/-- A node has been reached itself. -/
theorem Node.operand_reached {n : Node} : n.reached.operand = n.operand := by
  match n with
  | .literal .. | .failure .. | .operator .. | .function .. | .reference .. | .parameter ..
  | .lambda _ _ _ _ none _ | .lambda _ _ _ _ (some _) _ => rfl

theorem Node.map_operand_reachedAll {nodes : List Node} :
    (Node.reachedAll nodes).map Node.operand = nodes.map Node.operand := by
  induction nodes with
  | nil => rfl
  | cons n rest ih => rw [reachedAll, List.map_cons, List.map_cons, operand_reached, ih]

theorem Node.length_reachedAll {nodes : List Node} :
    (Node.reachedAll nodes).length = nodes.length := by
  induction nodes with
  | nil => rfl
  | cons n rest ih => rw [reachedAll, List.length_cons, List.length_cons, ih]

mutual

/-- The calls of an evaluation are made for nodes that it has reached. -/
theorem Node.callsMade_reached {awaits : Function → Bool} (n : Node) :
    n.reached.callsMade awaits = n.callsMade awaits := by
  match n with
  | .literal .. | .failure .. | .reference .. | .parameter .. => rfl
  | .lambda _ _ _ _ none _ => simp only [reached, callsMade]
  | .operator token op operands _ =>
    simp only [reached, callsMade, callsMadeByAll_reachedAll operands]
  | .function token f arguments _ =>
    simp only [reached, callsMade, callsMadeByAll_reachedAll arguments, map_operand_reachedAll]
  | .lambda token parameters scope body (some arguments) _ =>
    simp only [reached, callsMade, callsMadeByAll_reachedAll arguments, length_reachedAll]
    split
    · rfl
    · rw [callsMade_reached body]

theorem Node.callsMadeByAll_reachedAll {awaits : Function → Bool} (nodes : List Node) :
    Node.callsMadeByAll awaits (Node.reachedAll nodes) = Node.callsMadeByAll awaits nodes := by
  match nodes with
  | [] => rfl
  | n :: rest =>
    simp only [reachedAll, callsMadeByAll, callsMade_reached n, callsMadeByAll_reachedAll rest]

end

mutual

/-- A node without results has none to leave out. -/
theorem Node.unevaluated_unevaluated (n : Node) : n.unevaluated.unevaluated = n.unevaluated := by
  match n with
  | .literal .. | .failure .. | .reference .. | .parameter .. => rfl
  | .operator token op operands _ =>
    simp only [unevaluated, unevaluatedAll_unevaluatedAll operands]
  | .function token f arguments _ =>
    simp only [unevaluated, unevaluatedAll_unevaluatedAll arguments]
  | .lambda token parameters scope body none _ =>
    simp only [unevaluated, unevaluated_unevaluated body]
  | .lambda token parameters scope body (some arguments) _ =>
    simp only [unevaluated, unevaluated_unevaluated body, unevaluatedAll_unevaluatedAll arguments]

theorem Node.unevaluatedAll_unevaluatedAll (nodes : List Node) :
    Node.unevaluatedAll (Node.unevaluatedAll nodes) = Node.unevaluatedAll nodes := by
  match nodes with
  | [] => rfl
  | n :: rest =>
    simp only [unevaluatedAll, unevaluated_unevaluated n, unevaluatedAll_unevaluatedAll rest]

end

mutual

/-- Where the parameters of a tree look does not depend on its results. -/
theorem Node.scopedIn_unevaluated {V : ScopeId → Prop} (n : Node) :
    n.unevaluated.ScopedIn V ↔ n.ScopedIn V := by
  match n with
  | .literal .. | .failure .. | .reference .. | .parameter .. => rfl
  | .operator _ _ children _ | .function _ _ children _ =>
    simp only [unevaluated, ScopedIn, allScopedIn_unevaluatedAll children]
  | .lambda _ _ scope body none _ => simp only [unevaluated, ScopedIn, scopedIn_unevaluated body]
  | .lambda _ _ scope body (some arguments) _ =>
    simp only [unevaluated, ScopedIn, scopedIn_unevaluated body,
      allScopedIn_unevaluatedAll arguments]

theorem Node.allScopedIn_unevaluatedAll {V : ScopeId → Prop} (nodes : List Node) :
    Node.AllScopedIn V (Node.unevaluatedAll nodes) ↔ Node.AllScopedIn V nodes := by
  match nodes with
  | [] => rfl
  | n :: rest =>
    simp only [unevaluatedAll, AllScopedIn, scopedIn_unevaluated n,
      allScopedIn_unevaluatedAll rest]

end

/-! ## Two evaluations with the same surroundings -/

section SameSurroundings

variable {s : Surroundings} {awaits : Function → Bool}

/-- Every node makes equal operands out of equal ones. -/
theorem Node.keeps_eq {n : Node} : n.Keeps Eq s s awaits := by
  match n with
  | .literal .. | .reference .. => rfl
  | .operator .. | .function .. =>
    intro xs ys same
    rw [List.forall₂_eq_eq_eq] at same
    rw [same]
  | .failure .. | .parameter .. | .lambda .. => trivial

mutual

/-- An evaluation reaches the same results from a tree without results, whatever the bindings of
scopes that the tree does not look into. -/
theorem Node.reached_evaluate {V : ScopeId → Prop} {env env' : Environment}
    (related : Environment.Related Eq V env env') (n : Node) (closed : n.ScopedIn V) :
    (n.evaluate s awaits env).1.reached = (n.unevaluated.evaluate s awaits env').1.reached := by
  match n with
  | .literal .. | .failure .. | .reference .. => rfl
  | .parameter token scope _ =>
    have same : env.lookup s.maxParameterDepth scope token =
        env'.lookup s.maxParameterDepth scope token := related.lookup (fun _ => rfl) closed
    simp only [unevaluated, evaluate, same]
  | .lambda token parameters scope body none _ =>
    simp only [unevaluated, evaluate, reached, unevaluated_unevaluated]
  | .operator token op operands _ =>
    have below := reachedAll_evaluateAll related operands closed
    have seen := congrArg (List.map Node.operand) below
    rw [map_operand_reachedAll, map_operand_reachedAll] at seen
    simp only [unevaluated, evaluate, reached, below, Operator.applyTo_eq, seen]
  | .function token f arguments _ =>
    have below := reachedAll_evaluateAll related arguments closed
    have seen := congrArg (List.map Node.operand) below
    rw [map_operand_reachedAll, map_operand_reachedAll] at seen
    simp only [unevaluated, evaluate, reached, below, seen]
  | .lambda token parameters scope body (some arguments) _ =>
    have below := reachedAll_evaluateAll related arguments closed.1
    have length := congrArg List.length below
    rw [length_reachedAll, length_reachedAll] at length
    simp only [unevaluated, evaluate, FormulaError.tooManyArguments, ← length]
    split
    · rename_i tooMany
      simp only [reached, below, ← length, if_pos tooMany, unevaluated_unevaluated]
    · rename_i enough
      -- Both evaluations bind the scope of the lambda before they enter its body.
      have keeps : ∀ m ∈ Node.nodesOfAll arguments, m.Keeps Eq s s awaits := fun _ _ => keeps_eq
      obtain ⟨W, grows, bindings, results⟩ :=
        evaluateAll_related (fun _ => rfl) rfl related arguments closed.1 keeps
      obtain ⟨after, -, bound⟩ := @evaluateAll_unevaluatedAll s awaits env' arguments
      have inside : body.ScopedIn fun id => id = scope.id ∨ W id :=
        ScopedIn.mono (fun id => Or.imp_right (grows id)) body closed.2
      have bodyBindings := @Environment.Related.bindArguments _ _ _ _ bindings scope parameters
        _ _ results
      have inBody := reached_evaluate bodyBindings body inside
      rw [after, Environment.bindArguments_congr bound]
      have result := congrArg Node.operand inBody
      simp only [operand_reached] at result
      simp only [reached, below, ← length, if_neg enough, inBody, result]

theorem Node.reachedAll_evaluateAll {V : ScopeId → Prop} {env env' : Environment}
    (related : Environment.Related Eq V env env') (nodes : List Node)
    (closed : Node.AllScopedIn V nodes) :
    Node.reachedAll (Node.evaluateAll s awaits env nodes).1 =
      Node.reachedAll (Node.evaluateAll s awaits env' (Node.unevaluatedAll nodes)).1 := by
  match nodes with
  | [] => rfl
  | n :: rest =>
    have keeps : ∀ m ∈ n.nodes, m.Keeps Eq s s awaits := fun _ _ => keeps_eq
    obtain ⟨W, grows, bindings, -⟩ :=
      evaluate_related (fun _ => rfl) rfl related n closed.1 keeps
    obtain ⟨after, -, -⟩ := @evaluate_unevaluated s awaits env' n
    have first := reached_evaluate related n closed.1
    have others := reachedAll_evaluateAll bindings rest (AllScopedIn.mono grows rest closed.2)
    simp only [unevaluatedAll, evaluateAll, reachedAll, first, after, others]

end

end SameSurroundings

/-! ## After other evaluations -/

/-- The formula after evaluations in some sessions, one after another, each of which waits for
asynchronous functions or does not. -/
def Formula.afterEvaluations (f : Formula) (history : List (Session × Bool)) : Formula :=
  history.foldl (fun f entry => (entry.1.evaluate entry.2 (some f)).formula.getD f) f

/-- Evaluations change nothing of a formula but what it keeps. -/
theorem Formula.unevaluated_afterEvaluations {f : Formula} {history : List (Session × Bool)} :
    (f.afterEvaluations history).root.unevaluated = f.root.unevaluated := by
  induction history generalizing f with
  | nil => rfl
  | cons entry rest ih =>
    rw [afterEvaluations, List.foldl_cons]
    refine ih.trans ?_
    rw [Session.evaluate_eq, Option.getD_some, Node.unevaluated_evaluate]

/-- Earlier evaluations of a formula make no difference. Whatever evaluations of a built formula
have come before, in whatever sessions and whether they waited or not, the next one has the result
that it has for a formula just built, makes the same calls with the same arguments, and leaves the
same results in all nodes that it reaches. -/
theorem Session.evaluate_afterEvaluations {b : Builder} {t : ParseTree} {s : Session}
    {awaiting : Bool} {history : List (Session × Bool)} :
    let fresh : Formula := ⟨b.build t, {}⟩
    let again := s.evaluate awaiting (some (fresh.afterEvaluations history))
    let once := s.evaluate awaiting (some fresh)
    again.result = once.result ∧ again.calls = once.calls ∧
      again.formula.map (·.root.reached) = once.formula.map (·.root.reached) := by
  intro fresh again once
  have built : (b.build t).unevaluated = b.build t := Builder.invariant_unevaluated.make t
  have tree : (fresh.afterEvaluations history).root.unevaluated = b.build t :=
    Formula.unevaluated_afterEvaluations.trans built
  have closed : (fresh.afterEvaluations history).root.ScopedIn fun _ => False := by
    rw [← Node.scopedIn_unevaluated, tree]
    exact Builder.invariant_scopedIn.make t _ fun _ member => absurd member List.not_mem_nil
  have unrelated : Environment.Related Eq (fun _ => False)
      (fresh.afterEvaluations history).environment fresh.environment := Environment.related_of_none
  have same := @Node.reached_evaluate s.surroundings (awaitsWhen awaiting) _ _ _ unrelated _ closed
  rw [tree] at same
  have result := congrArg Node.operand same
  have calls := congrArg (Node.callsMade (awaitsWhen awaiting)) same
  rw [Node.operand_reached, Node.operand_reached] at result
  rw [Node.callsMade_reached, Node.callsMade_reached] at calls
  simp only [again, once, evaluate_eq]
  exact ⟨result, calls, congrArg some same⟩

end Spreadsheet
