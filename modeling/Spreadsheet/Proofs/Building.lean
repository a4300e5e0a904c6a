import Spreadsheet.Formula.Builder
import Spreadsheet.Proofs.Environment

/-!
# What builders make

A property of built trees is proved for each way to build a node, from the same property of the
nodes below it (`Builder.Invariant`). It may speak of the open lambdas and of the path to the node.

Three such properties hold of every built tree: the scopes that it binds have paths through its root
(`Builder.invariant_length_le`), its values, functions and references are what tokens denote
(`Builder.invariant_isBuilt`), and it has no results yet (`Builder.invariant_unevaluated`).
-/

namespace Spreadsheet

/-! ## Induction over built trees -/

/-- Whether a property of nodes, the lambdas open at them and their paths passes from the parts of a
built node to the node. -/
structure Builder.Invariant (b : Builder) (P : List OpenLambda → ScopeId → Node → Prop) :
    Prop where
  literal : ∀ lambdas path token, P lambdas path (.literal token (.ofConstant token) none)
  failure : ∀ lambdas path token e, P lambdas path (.failure token e none)
  reference : ∀ lambdas path token sheet range, b.config.locate token = .ok (sheet, range) →
    P lambdas path (.reference token b.config.unit sheet range none)
  parameter : ∀ lambdas path token scope, parameterScope? lambdas token = some scope →
    P lambdas path (.parameter token scope none)
  operator : ∀ lambdas path token op operands, (∀ n ∈ operands, ∃ i, P lambdas (i :: path) n) →
    P lambdas path (.operator token op operands none)
  function : ∀ lambdas path token f arguments, b.config.registry.find? token = some f →
    (∀ n ∈ arguments, ∃ i, P lambdas (i :: path) n) →
    P lambdas path (.function token f arguments none)
  /-- Lambdas, which are open in their bodies but not in the arguments of their invocation. -/
  lambda : ∀ lambdas path token parameters scope body invocation,
    scope = .inside (lambdas.head?.map (·.scope)) path →
    P (⟨parameters, scope⟩ :: lambdas) (0 :: path) body →
    (∀ arguments ∈ invocation, ∀ n ∈ arguments, ∃ i, P lambdas (i :: path) n) →
    P lambdas path (.lambda token parameters scope body invocation none)

section Induction

variable {b : Builder} {P : List OpenLambda → ScopeId → Node → Prop}

mutual

/-- An invariant holds of every built tree. -/
theorem Builder.Invariant.make (invariant : b.Invariant P) {lambdas : List OpenLambda}
    {path : ScopeId} {c : NodeClass} (t : ParseTree) :
    P lambdas path (b.make lambdas path c t) := by
  match t, c with
  | .node token children isCall invocation, .parameter =>
    simp only [Builder.make, Node.ofParameter]
    split
    · rename_i scope found
      exact invariant.parameter lambdas path token scope found
    · exact invariant.failure lambdas path token _
  | .node token children isCall invocation, .lambda =>
    simp only [Builder.make]
    split
    · exact invariant.failure lambdas path token _
    split
    · exact invariant.failure lambdas path token _
    · rename_i body made
      refine invariant.lambda lambdas path token _ _ body _ rfl
        (invariant.makeLast children made) fun arguments given => ?_
      match invocation with
      | none => cases given
      | some trees =>
        cases given
        exact invariant.makeAll trees
  | .node token children isCall invocation, .function =>
    simp only [Builder.make]
    split
    · rename_i f found
      exact invariant.function lambdas path token f _ found (invariant.makeAll children)
    · exact invariant.failure lambdas path token _
  | .node token children isCall invocation, .operator =>
    simp only [Builder.make]
    split
    · exact invariant.operator lambdas path token _ _ (invariant.makeAll children)
    · exact invariant.failure lambdas path token _
  | .node token children isCall invocation, .value => exact invariant.literal lambdas path token
  | .node token children isCall invocation, .reference =>
    simp only [Builder.make, Node.ofReference]
    split
    · rename_i sheet range located
      exact invariant.reference lambdas path token sheet range located
    · exact invariant.failure lambdas path token _
  | .node token children isCall invocation, .error => exact invariant.failure lambdas path token _

theorem Builder.Invariant.makeAll (invariant : b.Invariant P) {lambdas : List OpenLambda}
    {path : ScopeId} {index : Nat} (trees : List ParseTree) :
    ∀ n ∈ b.makeAll lambdas path index trees, ∃ i, P lambdas (i :: path) n := by
  match trees with
  | [] => exact fun n member => absurd member List.not_mem_nil
  | t :: rest =>
    exact List.forall_mem_cons.mpr ⟨⟨index, invariant.make t⟩, invariant.makeAll rest⟩

theorem Builder.Invariant.makeLast (invariant : b.Invariant P) {lambdas : List OpenLambda}
    {path : ScopeId} (trees : List ParseTree) {body : Node}
    (made : b.makeLast lambdas path trees = some body) : P lambdas path body := by
  match trees with
  | [] => cases made
  | [t] =>
    cases made
    exact invariant.make t
  | _ :: second :: rest => exact invariant.makeLast (second :: rest) made

end

end Induction

/-! ## Paths of scopes -/

@[simp]
theorem Scope.id_inside {around : Option Scope} {id : ScopeId} : (inside around id).id = id := by
  cases around <;> rfl

section Paths

variable {b : Builder} {lambdas : List OpenLambda} {path : ScopeId}

theorem Node.length_lt_of_mem_scopesOfAll {nodes : List Node}
    (each : ∀ n ∈ nodes, ∃ i : Nat, ∀ scope ∈ n.scopes, (i :: path).length ≤ scope.id.length)
    {scope : Scope} (member : scope ∈ Node.scopesOfAll nodes) : path.length < scope.id.length := by
  obtain ⟨m, below, bound⟩ := List.mem_filterMap.mp member
  obtain ⟨n, inside, here⟩ := mem_nodesOfAll.mp below
  obtain ⟨i, long⟩ := each n inside
  exact long scope (List.mem_filterMap.mpr ⟨m, here, bound⟩)

/-- The scopes in a built tree have paths that go through its root. -/
theorem Builder.invariant_length_le :
    b.Invariant fun _ path n => ∀ scope ∈ n.scopes, path.length ≤ scope.id.length where
  literal _ _ _ _ member := absurd member List.not_mem_nil
  failure _ _ _ _ _ member := absurd member List.not_mem_nil
  reference _ _ _ _ _ _ _ member := absurd member List.not_mem_nil
  parameter _ _ _ _ _ _ member := absurd member List.not_mem_nil
  operator _ _ _ _ _ each _ member := Nat.le_of_lt (Node.length_lt_of_mem_scopesOfAll each member)
  function _ _ _ _ _ _ each _ member :=
    Nat.le_of_lt (Node.length_lt_of_mem_scopesOfAll each member)
  lambda lambdas path token parameters scope body invocation inside inBody inArguments := by
    have here : scope.id = path := inside ▸ Scope.id_inside
    intro bound member
    match invocation with
    | none =>
      rcases List.mem_cons.mp member with rfl | below
      · exact Nat.le_of_eq (congrArg List.length here.symm)
      · exact Nat.le_of_succ_le (inBody bound below)
    | some arguments =>
      rcases Node.mem_scopes_lambda.mp member with rfl | below | below
      · exact Nat.le_of_eq (congrArg List.length here.symm)
      · exact Nat.le_of_lt (Node.length_lt_of_mem_scopesOfAll (inArguments arguments rfl) below)
      · exact Nat.le_of_succ_le (inBody bound below)

variable {s : Surroundings} {awaits : Function → Bool} {env : Environment} {id : ScopeId}

/-- The evaluation of a built tree leaves alone the scopes with shorter paths. -/
theorem Builder.frame_evaluate_make {c : NodeClass} {t : ParseTree}
    (short : id.length < path.length) :
    ((b.make lambdas path c t).evaluate s awaits env).2.frame id = env.frame id := by
  refine Node.frame_evaluate env _ fun scope member same => ?_
  exact Nat.not_lt.mpr (invariant_length_le.make t scope member) (same ▸ short)

/-- The evaluation of built trees leaves alone the scopes with paths that are not longer. -/
theorem Builder.frame_evaluateAll_makeAll {index : Nat} {trees : List ParseTree}
    (short : id.length ≤ path.length) :
    (Node.evaluateAll s awaits env (b.makeAll lambdas path index trees)).2.frame id =
      env.frame id := by
  refine Node.frame_evaluateAll env _ fun scope member same => ?_
  have long := Node.length_lt_of_mem_scopesOfAll (invariant_length_le.makeAll trees) member
  exact Nat.not_le.mpr long (same ▸ short)

end Paths

/-! ## Where values, functions and references come from -/

/-- Whether the value, the function or the reference of a node is what its token denotes. -/
def Node.IsBuilt (config : Config) : Node → Prop
  | .literal token v _ => v = .ofConstant token
  | .function token f _ _ => config.registry.find? token = some f
  | .reference token unit sheet range _ =>
    unit = config.unit ∧ config.locate token = .ok (sheet, range)
  | _ => True

theorem Node.forall_mem_nodesOfAll {P : Node → Prop} {nodes : List Node}
    (each : ∀ n ∈ nodes, ∃ _ : Nat, ∀ m ∈ n.nodes, P m) : ∀ m ∈ Node.nodesOfAll nodes, P m := by
  intro m member
  obtain ⟨n, inside, below⟩ := mem_nodesOfAll.mp member
  obtain ⟨-, holds⟩ := each n inside
  exact holds m below

/-- Values anywhere in a built tree come from tokens, functions and references from the
configuration. -/
theorem Builder.invariant_isBuilt {b : Builder} :
    b.Invariant fun _ _ n => ∀ m ∈ n.nodes, m.IsBuilt b.config where
  literal _ _ _ := List.forall_mem_singleton.mpr rfl
  failure _ _ _ _ := List.forall_mem_singleton.mpr trivial
  reference _ _ _ _ _ located := List.forall_mem_singleton.mpr ⟨rfl, located⟩
  parameter _ _ _ _ _ := List.forall_mem_singleton.mpr trivial
  operator _ _ _ _ _ each :=
    List.forall_mem_cons.mpr ⟨trivial, Node.forall_mem_nodesOfAll each⟩
  function _ _ _ _ _ found each :=
    List.forall_mem_cons.mpr ⟨found, Node.forall_mem_nodesOfAll each⟩
  lambda _ _ _ _ _ _ invocation _ inBody inArguments := by
    match invocation with
    | none => exact List.forall_mem_cons.mpr ⟨trivial, inBody⟩
    | some arguments =>
      have below := Node.forall_mem_nodesOfAll (inArguments arguments rfl)
      exact List.forall_mem_cons.mpr ⟨trivial, List.forall_mem_append.mpr ⟨below, inBody⟩⟩

/-! ## Fresh trees -/

theorem Node.unevaluatedAll_eq_self {nodes : List Node}
    (each : ∀ n ∈ nodes, ∃ _ : Nat, n.unevaluated = n) : Node.unevaluatedAll nodes = nodes := by
  induction nodes with
  | nil => rfl
  | cons n rest ih =>
    rw [List.forall_mem_cons] at each
    obtain ⟨⟨-, fresh⟩, others⟩ := each
    rw [unevaluatedAll, fresh, ih others]

/-- A built tree has no results. -/
theorem Builder.invariant_unevaluated {b : Builder} :
    b.Invariant fun _ _ n => n.unevaluated = n where
  literal _ _ _ := rfl
  failure _ _ _ _ := rfl
  reference _ _ _ _ _ _ := rfl
  parameter _ _ _ _ _ := rfl
  operator _ _ _ _ _ each := by rw [Node.unevaluated, Node.unevaluatedAll_eq_self each]
  function _ _ _ _ _ _ each := by rw [Node.unevaluated, Node.unevaluatedAll_eq_self each]
  lambda _ _ _ _ _ _ invocation _ inBody inArguments := by
    match invocation with
    | none => rw [Node.unevaluated, inBody]
    | some arguments =>
      rw [Node.unevaluated, inBody, Node.unevaluatedAll_eq_self (inArguments arguments rfl)]

end Spreadsheet
