import Spreadsheet.Proofs.Operands

/-!
# Results of formulas

A property of operands passes from the nodes of a tree to all that an evaluation leaves behind: if
every node by itself makes operands with the property out of such operands, then the results that
are kept anywhere in the tree have it, and so have the operands that names are bound to
(`Node.kept_evaluate`). Results of earlier evaluations, which remain in bodies of lambdas that are
not entered, are among them.

In trees with standard functions over cells that keep numbers of one kind, the results are well
formed (`Builder.produces_wellFormed`).
-/

namespace Spreadsheet

/-! ## What nodes keep and produce -/

/-- Whether the result that a node keeps, if it keeps one, has a property. -/
def Node.Kept (P : Operand → Prop) (n : Node) : Prop :=
  ∀ x, n.result? = some x → P x

/-- Whether all operands that names are bound to have a property. -/
def Environment.AllBound (P : Operand → Prop) (env : Environment) : Prop :=
  ∀ id key x, (env.frame id).lookup key = some (.operand x) → P x

/-- Whether a node by itself produces only operands with a property: it makes one out of such
operands. -/
def Node.Produces (P : Operand → Prop) (s : Surroundings) (awaits : Function → Bool) :
    Node → Prop
  | .literal _ v _ => P (.value v)
  | .operator _ op _ _ => ∀ xs : List Operand, (∀ x ∈ xs, P x) →
    P (.value (op.apply (xs.map Operand.force)))
  | .function _ f _ _ => ∀ xs, (∀ x ∈ xs, P x) → P (f.invoke (awaits f) xs)
  | .reference _ unit sheet range _ => P (.reference ⟨unit, sheet, range, s.layers⟩)
  | .failure .. | .parameter .. | .lambda .. => True

section Keeping

variable {P : Operand → Prop}

theorem Node.kept_of_result? {n : Node} {x : Operand} (result : n.result? = some x) (holds : P x) :
    n.Kept P := by
  intro y other
  rw [result] at other
  cases other
  exact holds

theorem Node.Kept.operand (errors : ∀ e, P (.ofError e)) {n : Node} (kept : n.Kept P) :
    P n.operand := by
  unfold Node.operand
  cases result : n.result? with
  | none => exact errors _
  | some x => exact kept x result

theorem Node.mem_nodes_self {n : Node} : n ∈ n.nodes := by
  cases n with
  | literal | failure | reference | parameter | operator | function => exact List.mem_cons_self
  | lambda _ _ _ _ invocation => cases invocation <;> exact List.mem_cons_self

/-- The operands of nodes have a property if all results in them have it. -/
theorem Node.forall_operand (errors : ∀ e, P (.ofError e)) {nodes : List Node}
    (kept : ∀ m ∈ Node.nodesOfAll nodes, m.Kept P) : ∀ x ∈ nodes.map Node.operand, P x := by
  intro x member
  obtain ⟨n, inside, rfl⟩ := List.mem_map.mp member
  have here : n ∈ Node.nodesOfAll nodes := mem_nodesOfAll.mpr ⟨n, inside, mem_nodes_self⟩
  exact (kept n here).operand errors

theorem Environment.allBound_empty : ({} : Environment).AllBound P := by
  intro id key x bound
  cases bound

/-- A name that is found bound to an operand is bound to one with the property. -/
theorem Environment.AllBound.find? {env : Environment} (bound : env.AllBound P) {scope : Scope}
    {name : String} {x : Operand} (found : env.find? scope name = some (.operand x)) : P x := by
  obtain ⟨id, -, here⟩ := List.exists_of_findSome?_eq_some found
  exact bound id (upperText name) x here

theorem Environment.AllBound.go {env : Environment} (bound : env.AllBound P) {maxDepth steps : Nat}
    {visited : List (ScopeId × String)} {scope : Scope} {name : String} {x : Operand}
    (resolved : Environment.resolve.go env maxDepth steps visited scope name = .ok x) : P x := by
  induction steps generalizing visited scope name with
  | zero => cases resolved
  | succ steps ih =>
    rw [Environment.resolve.go] at resolved
    split at resolved
    · cases resolved
    split at resolved
    · rename_i y found
      cases resolved
      exact bound.find? found
    · exact ih resolved
    · cases resolved

/-- Parameters stand for operands with the property. -/
theorem Environment.AllBound.lookup {env : Environment} (bound : env.AllBound P)
    (errors : ∀ e, P (.ofError e)) (maxDepth : Nat) (scope : Scope) (name : String) :
    P (env.lookup maxDepth scope name) := by
  unfold Environment.lookup
  split
  · rename_i x resolved
    exact bound.go resolved
  · exact errors _

/-- Binding arguments with the property binds nothing else. -/
theorem Environment.AllBound.bindArguments {env : Environment} (bound : env.AllBound P)
    {scope : Scope} {parameters : List String} {arguments : List Node}
    (operands : ∀ n ∈ arguments, P n.operand) :
    (env.bindArguments scope parameters arguments).AllBound P := by
  intro id key x found
  by_cases here : id = scope.id
  · subst here
    rw [lookup_bindArguments] at found
    obtain ⟨⟨parameter, n⟩, first, binding⟩ := Option.map_eq_some_iff.mp found
    have member : n ∈ arguments :=
      (List.of_mem_zip (List.mem_reverse.mp (List.mem_of_find?_eq_some first))).2
    have holds : P n.operand := operands n member
    match n with
    | .literal .. | .failure .. | .operator .. | .function .. | .reference .. | .lambda .. =>
      cases binding
      exact holds
    | .parameter .. => cases binding
  · rw [frame_bindArguments_of_ne here] at found
    exact bound id key x found

end Keeping

/-! ## Evaluations -/

section Evaluation

variable {P : Operand → Prop} {s : Surroundings} {awaits : Function → Bool}

mutual

/-- If every node of a tree produces only operands with a property, an evaluation leaves only
results and bindings with it. -/
theorem Node.kept_evaluate (errors : ∀ e, P (.ofError e)) {env : Environment}
    (bound : env.AllBound P) (n : Node) (kept : ∀ m ∈ n.nodes, m.Kept P)
    (produces : ∀ m ∈ n.nodes, m.Produces P s awaits) :
    (n.evaluate s awaits env).2.AllBound P ∧
      ∀ m ∈ (n.evaluate s awaits env).1.nodes, m.Kept P := by
  match n with
  | .literal _ v _ =>
    have here : P (.value v) := produces _ List.mem_cons_self
    exact ⟨bound, List.forall_mem_singleton.mpr (kept_of_result? rfl here)⟩
  | .failure _ e _ =>
    exact ⟨bound, List.forall_mem_singleton.mpr (kept_of_result? rfl (errors e))⟩
  | .reference _ unit sheet range _ =>
    have here : P (.reference ⟨unit, sheet, range, s.layers⟩) := produces _ List.mem_cons_self
    exact ⟨bound, List.forall_mem_singleton.mpr (kept_of_result? rfl here)⟩
  | .parameter token scope _ =>
    have here := bound.lookup errors s.maxParameterDepth scope token
    exact ⟨bound, List.forall_mem_singleton.mpr (kept_of_result? rfl here)⟩
  | .operator token op operands _ =>
    obtain ⟨-, keptBelow⟩ := List.forall_mem_cons.mp kept
    obtain ⟨here, below⟩ := List.forall_mem_cons.mp produces
    obtain ⟨after, results⟩ := kept_evaluateAll errors bound operands keptBelow below
    have result := here _ (forall_operand errors results)
    simp only [evaluate, Operator.applyTo_eq]
    exact ⟨after, List.forall_mem_cons.mpr ⟨kept_of_result? rfl result, results⟩⟩
  | .function token f arguments _ =>
    obtain ⟨-, keptBelow⟩ := List.forall_mem_cons.mp kept
    obtain ⟨here, below⟩ := List.forall_mem_cons.mp produces
    obtain ⟨after, results⟩ := kept_evaluateAll errors bound arguments keptBelow below
    have result := here _ (forall_operand errors results)
    exact ⟨after, List.forall_mem_cons.mpr ⟨kept_of_result? rfl result, results⟩⟩
  | .lambda token parameters scope body none _ =>
    -- The body is not entered and keeps what it has kept before.
    obtain ⟨-, keptBelow⟩ := List.forall_mem_cons.mp kept
    exact ⟨bound, List.forall_mem_cons.mpr ⟨kept_of_result? rfl (errors _), keptBelow⟩⟩
  | .lambda token parameters scope body (some arguments) _ =>
    obtain ⟨-, keptBelow⟩ := List.forall_mem_cons.mp kept
    obtain ⟨-, below⟩ := List.forall_mem_cons.mp produces
    obtain ⟨keptArguments, keptBody⟩ := List.forall_mem_append.mp keptBelow
    obtain ⟨inArguments, inBody⟩ := List.forall_mem_append.mp below
    obtain ⟨after, results⟩ := kept_evaluateAll errors bound arguments keptArguments inArguments
    simp only [evaluate]
    split
    · refine ⟨after, List.forall_mem_cons.mpr ⟨kept_of_result? rfl (errors _), ?_⟩⟩
      exact List.forall_mem_append.mpr ⟨results, keptBody⟩
    · have operands := List.forall_mem_map.mp (forall_operand errors results)
      obtain ⟨afterBody, resultsInBody⟩ :=
        kept_evaluate errors (after.bindArguments operands) body keptBody inBody
      have result := (resultsInBody _ mem_nodes_self).operand errors
      refine ⟨afterBody, List.forall_mem_cons.mpr ⟨kept_of_result? rfl result, ?_⟩⟩
      exact List.forall_mem_append.mpr ⟨results, resultsInBody⟩

theorem Node.kept_evaluateAll (errors : ∀ e, P (.ofError e)) {env : Environment}
    (bound : env.AllBound P) (nodes : List Node) (kept : ∀ m ∈ Node.nodesOfAll nodes, m.Kept P)
    (produces : ∀ m ∈ Node.nodesOfAll nodes, m.Produces P s awaits) :
    (Node.evaluateAll s awaits env nodes).2.AllBound P ∧
      ∀ m ∈ Node.nodesOfAll (Node.evaluateAll s awaits env nodes).1, m.Kept P := by
  match nodes with
  | [] => exact ⟨bound, fun m member => absurd member List.not_mem_nil⟩
  | n :: rest =>
    obtain ⟨keptFirst, keptRest⟩ := List.forall_mem_append.mp kept
    obtain ⟨first, others⟩ := List.forall_mem_append.mp produces
    obtain ⟨after, results⟩ := kept_evaluate errors bound n keptFirst first
    obtain ⟨afterRest, allResults⟩ := kept_evaluateAll errors after rest keptRest others
    exact ⟨afterRest, List.forall_mem_append.mpr ⟨results, allResults⟩⟩

end

end Evaluation

/-! ## Trees with results -/

mutual

/-- The nodes of a tree without results are those of the tree, without theirs. -/
theorem Node.nodes_unevaluated (n : Node) : n.unevaluated.nodes = n.nodes.map Node.unevaluated := by
  match n with
  | .literal .. | .failure .. | .reference .. | .parameter .. => rfl
  | .operator _ _ children _ | .function _ _ children _ =>
    simp only [unevaluated, nodes, List.map_cons, nodesOfAll_unevaluatedAll children]
  | .lambda _ _ _ body none _ =>
    simp only [unevaluated, nodes, List.map_cons, nodes_unevaluated body]
  | .lambda _ _ _ body (some arguments) _ =>
    simp only [unevaluated, nodes, List.map_cons, List.map_append, nodes_unevaluated body,
      nodesOfAll_unevaluatedAll arguments]

theorem Node.nodesOfAll_unevaluatedAll (nodes : List Node) :
    Node.nodesOfAll (Node.unevaluatedAll nodes) = (Node.nodesOfAll nodes).map Node.unevaluated := by
  match nodes with
  | [] => rfl
  | n :: rest =>
    simp only [unevaluatedAll, nodesOfAll, List.map_append, nodes_unevaluated n,
      nodesOfAll_unevaluatedAll rest]

end

/-- What a node produces does not depend on what it has kept. -/
theorem Node.produces_of_unevaluated {P : Operand → Prop} {s : Surroundings}
    {awaits : Function → Bool} {n : Node} (produces : n.unevaluated.Produces P s awaits) :
    n.Produces P s awaits := by
  match n with
  | .literal .. | .operator .. | .function .. | .reference .. => exact produces
  | .failure .. | .parameter .. | .lambda .. => trivial

/-- A tree produces what it does without its results. -/
theorem Node.forall_produces {P : Operand → Prop} {s : Surroundings} {awaits : Function → Bool}
    {n : Node} (produces : ∀ m ∈ n.unevaluated.nodes, m.Produces P s awaits) :
    ∀ m ∈ n.nodes, m.Produces P s awaits := by
  rw [nodes_unevaluated, List.forall_mem_map] at produces
  exact fun m member => produces_of_unevaluated (produces m member)

/-- A built tree keeps nothing. -/
theorem Builder.kept_build {P : Operand → Prop} {b : Builder} {t : ParseTree} :
    ∀ m ∈ (b.build t).nodes, m.Kept P := by
  have fresh : (b.build t).unevaluated = b.build t := invariant_unevaluated.make t
  rw [← fresh, Node.nodes_unevaluated, List.forall_mem_map]
  intro m _ x result
  match m with
  | .literal .. | .failure .. | .reference .. | .parameter .. | .operator .. | .function ..
  | .lambda _ _ _ _ none _ | .lambda _ _ _ _ (some _) _ => cases result

/-! ## Well-formed results -/

/-- References inside a sheet are to cells that can be counted. -/
theorem Range.countable_between {p q : Position} (first : p.IsInSheet) (last : q.IsInSheet) :
    (Range.between p q).rows * (Range.between p q).columns ≤ greatestCount := by
  obtain ⟨top, left⟩ := first
  obtain ⟨bottom, right⟩ := last
  have rows : (Range.between p q).rows ≤ sheetRows := by
    unfold Range.rows Range.between
    dsimp only
    omega
  have columns : (Range.between p q).columns ≤ sheetColumns := by
    unfold Range.columns Range.between
    dsimp only
    omega
  calc (Range.between p q).rows * (Range.between p q).columns
    _ ≤ sheetRows * sheetColumns := Nat.mul_le_mul rows columns
    _ ≤ greatestCount := by decide

/-- Trees with standard functions produce well-formed operands from cells with numbers of one
kind. -/
theorem Builder.produces_wellFormed {N : Number → Prop} (closed : Arithmetic.Closed N) {b : Builder}
    (standard : b.config.registry = .standard) {s : Surroundings} {awaits : Function → Bool}
    (holds : ∀ layer ∈ s.layers, layer.Holds N) {t : ParseTree} :
    ∀ m ∈ (b.build t).nodes, m.Produces (Operand.WellFormed N) s awaits := by
  intro m member
  have built : m.IsBuilt b.config := invariant_isBuilt.make t m member
  match m with
  | .literal token v _ =>
    have constant : v = .ofConstant token := built
    rw [constant]
    exact .value (Value.wellFormed_ofConstant closed token)
  | .operator _ op _ _ =>
    intro xs each
    refine .value (Operator.wellFormed_apply closed ?_)
    exact List.forall_mem_map.mpr fun x inside => (each x inside).force
  | .function _ f _ _ =>
    intro xs each
    rw [Node.IsBuilt, standard] at built
    have known : f ∈ standardFunctions := mem_standardFunctions_of_find? built
    rw [Function.invoke_of_standard known]
    exact Function.wellFormed_calculate closed known each
  | .reference _ unit sheet range _ =>
    obtain ⟨-, located⟩ := built
    obtain ⟨p, q, first, last, rfl⟩ := Config.exists_between_of_locate located
    refine .reference (Range.countable_between first last) fun p => ?_
    exact readCell_isScalar closed holds unit sheet p
  | .failure .. | .parameter .. | .lambda .. => trivial

end Spreadsheet
