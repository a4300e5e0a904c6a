import Spreadsheet.Session

/-!
# Evaluation without a log

Both walks over a tree thread the bindings of scopes and a log of calls through it.
`Node.evaluate` is what they have in common: a function from a node and the bindings before to the
node with its results and the bindings after, told for each function whether its calls are awaited.
The log needs no thread of its own, since it can be read off the evaluated tree: it is
`Node.callsMade`, the calls in post-order, bodies of lambdas after the arguments.

`Node.run_evaluates` and `Node.runAwaiting_evaluates` say so of the two walks, one lemma for each
kind of node and an induction over the tree. `Session.evaluate_eq` puts both into one equation, so
that properties of sessions follow from properties of `Node.evaluate`.
-/

namespace Spreadsheet

/-! ## Trees without results -/

mutual

/-- The node without the results of an evaluation, in it and below. -/
def Node.unevaluated : Node → Node
  | .literal token v _ => .literal token v none
  | .failure token e _ => .failure token e none
  | .operator token op operands _ => .operator token op (Node.unevaluatedAll operands) none
  | .function token f arguments _ => .function token f (Node.unevaluatedAll arguments) none
  | .reference token unit sheet range _ => .reference token unit sheet range none
  | .parameter token scope _ => .parameter token scope none
  | .lambda token parameters scope body none _ =>
    .lambda token parameters scope (Node.unevaluated body) none none
  | .lambda token parameters scope body (some arguments) _ =>
    .lambda token parameters scope (Node.unevaluated body) (some (Node.unevaluatedAll arguments))
      none

/-- Each of several nodes without results. -/
def Node.unevaluatedAll : List Node → List Node
  | [] => []
  | n :: rest => Node.unevaluated n :: Node.unevaluatedAll rest

end

theorem Node.mem_nodesOfAll {nodes : List Node} {m : Node} :
    m ∈ Node.nodesOfAll nodes ↔ ∃ n ∈ nodes, m ∈ n.nodes := by
  induction nodes with
  | nil => simp only [nodesOfAll, List.not_mem_nil, false_and, exists_false]
  | cons n rest ih =>
    simp only [nodesOfAll, List.mem_append, ih, List.mem_cons, or_and_right, exists_or,
      exists_eq_left]

/-- The function that a node itself calls. -/
def Node.function? : Node → Option Function
  | .function _ f _ _ => some f
  | _ => none

/-- The functions called anywhere in the tree. -/
def Node.functions (n : Node) : List Function :=
  n.nodes.filterMap Node.function?

/-- The functions called anywhere in several trees. -/
def Node.functionsOfAll (nodes : List Node) : List Function :=
  (Node.nodesOfAll nodes).filterMap Node.function?

/-! ## The evaluator -/

mutual

/-- A node with its results, and the bindings after its evaluation. Calls of the functions that
`awaits` names are awaited. -/
def Node.evaluate (s : Surroundings) (awaits : Function → Bool) (env : Environment) :
    Node → Node × Environment
  | .literal token v _ => (.literal token v (some (.value v)), env)
  | .failure token e _ => (.failure token e (some (.ofError e)), env)
  | .operator token op operands _ =>
    let r := Node.evaluateAll s awaits env operands
    (.operator token op r.1 (some (op.applyTo r.1)), r.2)
  | .function token f arguments _ =>
    let r := Node.evaluateAll s awaits env arguments
    (.function token f r.1 (some (Call.result ⟨f, r.1.map Node.operand, awaits f⟩)), r.2)
  | .reference token unit sheet range _ =>
    (.reference token unit sheet range (some (.reference ⟨unit, sheet, range, s.layers⟩)), env)
  | .parameter token scope _ =>
    (.parameter token scope (some (env.lookup s.maxParameterDepth scope token)), env)
  | .lambda token parameters scope body none _ =>
    (.lambda token parameters scope body none (some (.ofError .neverCalled)), env)
  | .lambda token parameters scope body (some arguments) _ =>
    let r := Node.evaluateAll s awaits env arguments
    if parameters.length < r.1.length then
      let e := FormulaError.tooManyArguments parameters r.1
      (.lambda token parameters scope body (some r.1) (some (.ofError e)), r.2)
    else
      let b := Node.evaluate s awaits (r.2.bindArguments scope parameters r.1) body
      (.lambda token parameters scope b.1 (some r.1) (some b.1.operand), b.2)

/-- Nodes with their results from left to right, and the bindings after the last of them. -/
def Node.evaluateAll (s : Surroundings) (awaits : Function → Bool) (env : Environment) :
    List Node → List Node × Environment
  | [] => ([], env)
  | n :: rest =>
    let r := Node.evaluate s awaits env n
    let rs := Node.evaluateAll s awaits r.2 rest
    (r.1 :: rs.1, rs.2)

end

mutual

/-- The calls that an evaluation has made for an evaluated node, in order. The body of a lambda has
made none unless the lambda is invoked with as many arguments as it can take. -/
def Node.callsMade (awaits : Function → Bool) : Node → List Call
  | .literal .. | .failure .. | .reference .. | .parameter .. => []
  | .operator _ _ operands _ => Node.callsMadeByAll awaits operands
  | .function _ f arguments _ =>
    Node.callsMadeByAll awaits arguments ++ [⟨f, arguments.map Node.operand, awaits f⟩]
  | .lambda _ _ _ _ none _ => []
  | .lambda _ parameters _ body (some arguments) _ =>
    Node.callsMadeByAll awaits arguments ++
      if parameters.length < arguments.length then [] else Node.callsMade awaits body

/-- The calls that an evaluation has made for several nodes, in order. -/
def Node.callsMadeByAll (awaits : Function → Bool) : List Node → List Call
  | [] => []
  | n :: rest => Node.callsMade awaits n ++ Node.callsMadeByAll awaits rest

end

/-- An operator sees of its operands what they evaluate to. -/
theorem Operator.applyTo_eq {op : Operator} {operands : List Node} :
    op.applyTo operands = .value (op.apply ((operands.map Node.operand).map Operand.force)) := by
  rw [applyTo, List.map_map]
  rfl

/-! ## What an evaluation leaves alone -/

section Skeleton

variable {s : Surroundings} {awaits : Function → Bool}

theorem Node.length_unevaluatedAll (nodes : List Node) :
    (Node.unevaluatedAll nodes).length = nodes.length := by
  induction nodes with
  | nil => rfl
  | cons n rest ih => simp only [unevaluatedAll, List.length_cons, ih]

mutual

/-- An evaluation changes nothing but results. -/
theorem Node.unevaluated_evaluate (env : Environment) (n : Node) :
    (n.evaluate s awaits env).1.unevaluated = n.unevaluated := by
  match n with
  | .literal .. | .failure .. | .reference .. | .parameter .. | .lambda _ _ _ _ none _ =>
    simp only [evaluate, unevaluated]
  | .operator token op operands _ =>
    simp only [evaluate, unevaluated, unevaluatedAll_evaluateAll env operands]
  | .function token f arguments _ =>
    simp only [evaluate, unevaluated, unevaluatedAll_evaluateAll env arguments]
  | .lambda token parameters scope body (some arguments) _ =>
    simp only [evaluate]
    split
    · simp only [unevaluated, unevaluatedAll_evaluateAll env arguments]
    · simp only [unevaluated, unevaluatedAll_evaluateAll env arguments, unevaluated_evaluate _ body]

theorem Node.unevaluatedAll_evaluateAll (env : Environment) (nodes : List Node) :
    Node.unevaluatedAll (Node.evaluateAll s awaits env nodes).1 = Node.unevaluatedAll nodes := by
  match nodes with
  | [] => rfl
  | n :: rest =>
    simp only [evaluateAll, unevaluatedAll, unevaluated_evaluate env n,
      unevaluatedAll_evaluateAll _ rest]

end

@[simp]
theorem Node.length_evaluateAll {env : Environment} {nodes : List Node} :
    (Node.evaluateAll s awaits env nodes).1.length = nodes.length := by
  rw [← length_unevaluatedAll, unevaluatedAll_evaluateAll, length_unevaluatedAll]

/-- Each of several evaluated nodes has been evaluated with some bindings. -/
theorem Node.exists_evaluate_of_mem {env : Environment} {nodes : List Node} {m : Node}
    (member : m ∈ (Node.evaluateAll s awaits env nodes).1) :
    ∃ n ∈ nodes, ∃ env', (n.evaluate s awaits env').1 = m := by
  induction nodes generalizing env with
  | nil => cases member
  | cons n rest ih =>
    rcases List.mem_cons.mp member with rfl | inRest
    · exact ⟨n, List.mem_cons_self, env, rfl⟩
    · obtain ⟨k, inside, env', same⟩ := ih inRest
      exact ⟨k, List.mem_cons_of_mem n inside, env', same⟩

mutual

/-- The functions in a tree do not depend on its results. -/
theorem Node.functions_unevaluated (n : Node) : n.unevaluated.functions = n.functions := by
  match n with
  | .literal .. | .failure .. | .reference .. | .parameter .. => rfl
  | .operator token op operands _ => exact functionsOfAll_unevaluatedAll operands
  | .function token f arguments _ =>
    exact congrArg (f :: ·) (functionsOfAll_unevaluatedAll arguments)
  | .lambda token parameters scope body none _ => exact functions_unevaluated body
  | .lambda token parameters scope body (some arguments) _ =>
    have inArguments := functionsOfAll_unevaluatedAll arguments
    have inBody := functions_unevaluated body
    simp only [functions, functionsOfAll] at inArguments inBody
    simp only [unevaluated, functions, nodes, List.filterMap_cons, function?,
      List.filterMap_append, inArguments, inBody]

theorem Node.functionsOfAll_unevaluatedAll (nodes : List Node) :
    Node.functionsOfAll (Node.unevaluatedAll nodes) = Node.functionsOfAll nodes := by
  match nodes with
  | [] => rfl
  | n :: rest =>
    have inNode := functions_unevaluated n
    have inRest := functionsOfAll_unevaluatedAll rest
    simp only [functions, functionsOfAll] at inNode inRest
    simp only [unevaluatedAll, functionsOfAll, nodesOfAll, List.filterMap_append, inNode, inRest]

end

/-- The functions of an evaluated tree are those of the tree. -/
theorem Node.functions_evaluate {env : Environment} {n : Node} :
    (n.evaluate s awaits env).1.functions = n.functions := by
  rw [← functions_unevaluated, unevaluated_evaluate, functions_unevaluated]

mutual

/-- Which functions are called, and in which order, depends neither on results nor on what is
awaited. -/
theorem Node.functions_callsMade_unevaluated (a b : Function → Bool) (n : Node) :
    (n.unevaluated.callsMade a).map Call.function = (n.callsMade b).map Call.function := by
  match n with
  | .literal .. | .failure .. | .reference .. | .parameter .. | .lambda _ _ _ _ none _ =>
    simp only [unevaluated, callsMade]
  | .operator token op operands _ =>
    simp only [unevaluated, callsMade, functions_callsMadeByAll_unevaluatedAll a b operands]
  | .function token f arguments _ =>
    simp only [unevaluated, callsMade, List.map_append, List.map_cons, List.map_nil,
      functions_callsMadeByAll_unevaluatedAll a b arguments]
  | .lambda token parameters scope body (some arguments) _ =>
    simp only [unevaluated, callsMade, List.map_append, length_unevaluatedAll,
      functions_callsMadeByAll_unevaluatedAll a b arguments]
    split
    · rfl
    · rw [functions_callsMade_unevaluated a b body]

theorem Node.functions_callsMadeByAll_unevaluatedAll (a b : Function → Bool) (nodes : List Node) :
    (Node.callsMadeByAll a (Node.unevaluatedAll nodes)).map Call.function =
      (Node.callsMadeByAll b nodes).map Call.function := by
  match nodes with
  | [] => rfl
  | n :: rest =>
    simp only [unevaluatedAll, callsMadeByAll, List.map_append,
      functions_callsMade_unevaluated a b n, functions_callsMadeByAll_unevaluatedAll a b rest]

end

/-- The calls of an evaluated tree are of the functions that the tree calls, in the same order. -/
theorem Node.functions_callsMade_evaluate {env : Environment} {n : Node} (a b : Function → Bool) :
    ((n.evaluate s awaits env).1.callsMade a).map Call.function =
      (n.callsMade b).map Call.function := by
  rw [← functions_callsMade_unevaluated b, unevaluated_evaluate,
    functions_callsMade_unevaluated b b]

end Skeleton

/-! ## Independence of earlier results -/

/-- Binding arguments needs nothing of them but what they are bound to. -/
theorem Environment.bindArguments_congr {env : Environment} {scope : Scope}
    {parameters : List String} {arguments arguments' : List Node}
    (same : arguments.map Node.binding = arguments'.map Node.binding) :
    env.bindArguments scope parameters arguments =
      env.bindArguments scope parameters arguments' := by
  have byBindings : ∀ nodes : List Node, env.bindArguments scope parameters nodes =
      (parameters.zip (nodes.map Node.binding)).foldl
        (fun env entry => env.bind scope entry.1 entry.2) (env.clear scope) := by
    intro nodes
    rw [bindArguments, List.zip_map_right, List.foldl_map]
    rfl
  rw [byBindings, byBindings, same]

section Unevaluated

variable {s : Surroundings} {awaits : Function → Bool}

mutual

/-- Earlier results make no difference to an evaluation. -/
theorem Node.evaluate_unevaluated (env : Environment) (n : Node) :
    (n.unevaluated.evaluate s awaits env).2 = (n.evaluate s awaits env).2 ∧
      (n.unevaluated.evaluate s awaits env).1.operand = (n.evaluate s awaits env).1.operand ∧
      (n.unevaluated.evaluate s awaits env).1.binding = (n.evaluate s awaits env).1.binding := by
  match n with
  | .literal .. | .failure .. | .reference .. | .parameter .. | .lambda _ _ _ _ none _ =>
    exact ⟨rfl, rfl, rfl⟩
  | .operator token op operands _ =>
    obtain ⟨bindings, results, -⟩ := evaluateAll_unevaluatedAll env operands
    simp only [unevaluated, evaluate, Operator.applyTo_eq, results]
    exact ⟨bindings, rfl, rfl⟩
  | .function token f arguments _ =>
    obtain ⟨bindings, results, -⟩ := evaluateAll_unevaluatedAll env arguments
    simp only [unevaluated, evaluate, results]
    exact ⟨bindings, rfl, rfl⟩
  | .lambda token parameters scope body (some arguments) _ =>
    obtain ⟨bindings, -, bound⟩ := evaluateAll_unevaluatedAll env arguments
    simp only [unevaluated, evaluate, FormulaError.tooManyArguments, length_evaluateAll,
      length_unevaluatedAll]
    split
    · exact ⟨bindings, rfl, rfl⟩
    · rw [Environment.bindArguments_congr bound, bindings]
      obtain ⟨after, result, -⟩ := evaluate_unevaluated _ body
      exact ⟨after, result, congrArg Binding.operand result⟩

theorem Node.evaluateAll_unevaluatedAll (env : Environment) (nodes : List Node) :
    let r := Node.evaluateAll s awaits env (Node.unevaluatedAll nodes)
    let r' := Node.evaluateAll s awaits env nodes
    r.2 = r'.2 ∧ r.1.map Node.operand = r'.1.map Node.operand ∧
      r.1.map Node.binding = r'.1.map Node.binding := by
  match nodes with
  | [] => exact ⟨rfl, rfl, rfl⟩
  | n :: rest =>
    obtain ⟨after, result, bound⟩ := evaluate_unevaluated env n
    simp only [unevaluatedAll, evaluateAll, after, List.map_cons, result, bound]
    obtain ⟨afterRest, results, allBound⟩ := evaluateAll_unevaluatedAll _ rest
    exact ⟨afterRest, congrArg _ results, congrArg _ allBound⟩

end

end Unevaluated

/-! ## Functions that are awaited -/

section Agreement

variable {s : Surroundings} {a b : Function → Bool}

theorem Node.functions_cons_subset {n : Node} {rest : List Node} {P : Function → Prop}
    (all : ∀ f ∈ Node.functionsOfAll (n :: rest), P f) :
    (∀ f ∈ n.functions, P f) ∧ ∀ f ∈ Node.functionsOfAll rest, P f := by
  simp only [functionsOfAll, nodesOfAll, List.filterMap_append, List.mem_append] at all
  exact ⟨fun f member => all f (.inl member), fun f member => all f (.inr member)⟩

theorem Node.functions_lambda_subset {token : String} {parameters : List String} {scope : Scope}
    {body : Node} {arguments : List Node} {kept : Option Operand} {P : Function → Prop}
    (all : ∀ f ∈ (Node.lambda token parameters scope body (some arguments) kept).functions, P f) :
    (∀ f ∈ Node.functionsOfAll arguments, P f) ∧ ∀ f ∈ body.functions, P f := by
  simp only [functions, nodes, List.filterMap_cons, function?, List.filterMap_append,
    List.mem_append] at all
  exact ⟨fun f member => all f (.inl member), fun f member => all f (.inr member)⟩

mutual

/-- An evaluation depends on what is awaited only through the results of calls. -/
theorem Node.evaluate_congr (env : Environment) (n : Node)
    (agree : ∀ f ∈ n.functions, f.invoke (a f) = f.invoke (b f)) :
    n.evaluate s a env = n.evaluate s b env := by
  match n with
  | .literal .. | .failure .. | .reference .. | .parameter .. | .lambda _ _ _ _ none _ =>
    simp only [evaluate]
  | .operator token op operands _ =>
    simp only [evaluate, evaluateAll_congr env operands agree]
  | .function token f arguments _ =>
    have inArguments : ∀ g ∈ Node.functionsOfAll arguments, g.invoke (a g) = g.invoke (b g) :=
      fun g member => agree g (List.mem_cons_of_mem f member)
    simp only [evaluate, evaluateAll_congr env arguments inArguments, Call.result,
      agree f List.mem_cons_self]
  | .lambda token parameters scope body (some arguments) _ =>
    obtain ⟨inArguments, inBody⟩ := functions_lambda_subset agree
    simp only [evaluate, evaluateAll_congr env arguments inArguments,
      evaluate_congr _ body inBody]

theorem Node.evaluateAll_congr (env : Environment) (nodes : List Node)
    (agree : ∀ f ∈ Node.functionsOfAll nodes, f.invoke (a f) = f.invoke (b f)) :
    Node.evaluateAll s a env nodes = Node.evaluateAll s b env nodes := by
  match nodes with
  | [] => rfl
  | n :: rest =>
    obtain ⟨inNode, inRest⟩ := functions_cons_subset agree
    simp only [evaluateAll, evaluate_congr env n inNode, evaluateAll_congr _ rest inRest]

end

mutual

/-- The calls that were made are the same if the same of them were awaited. -/
theorem Node.callsMade_congr (n : Node) (agree : ∀ f ∈ n.functions, a f = b f) :
    n.callsMade a = n.callsMade b := by
  match n with
  | .literal .. | .failure .. | .reference .. | .parameter .. | .lambda _ _ _ _ none _ =>
    simp only [callsMade]
  | .operator token op operands _ => simp only [callsMade, callsMadeByAll_congr operands agree]
  | .function token f arguments _ =>
    have inArguments : ∀ g ∈ Node.functionsOfAll arguments, a g = b g :=
      fun g member => agree g (List.mem_cons_of_mem f member)
    simp only [callsMade, callsMadeByAll_congr arguments inArguments, agree f List.mem_cons_self]
  | .lambda token parameters scope body (some arguments) _ =>
    obtain ⟨inArguments, inBody⟩ := functions_lambda_subset agree
    simp only [callsMade, callsMadeByAll_congr arguments inArguments, callsMade_congr body inBody]

theorem Node.callsMadeByAll_congr (nodes : List Node)
    (agree : ∀ f ∈ Node.functionsOfAll nodes, a f = b f) :
    Node.callsMadeByAll a nodes = Node.callsMadeByAll b nodes := by
  match nodes with
  | [] => rfl
  | n :: rest =>
    obtain ⟨inNode, inRest⟩ := functions_cons_subset agree
    simp only [callsMadeByAll, callsMade_congr n inNode, callsMadeByAll_congr rest inRest]

end

end Agreement

theorem Node.containsAsyncCall_eq (n : Node) :
    n.containsAsyncCall = n.functions.any Function.isAsync := by
  rw [containsAsyncCall, functions, List.any_filterMap]
  congr 1
  funext m
  cases m <;> rfl

mutual

/-- The flag of a node says whether an asynchronous function is called anywhere below it. -/
theorem Node.isAsync_eq (n : Node) : n.isAsync = n.functions.any Function.isAsync := by
  match n with
  | .literal .. | .failure .. | .reference .. | .parameter .. => rfl
  | .operator token op operands _ => exact anyAsync_eq operands
  | .function token f arguments _ =>
    rw [isAsync, anyAsync_eq arguments, Bool.or_comm]
    rfl
  | .lambda token parameters scope body none _ => exact isAsync_eq body
  | .lambda token parameters scope body (some arguments) _ =>
    rw [isAsync, anyAsync_eq arguments, isAsync_eq body]
    simp only [functions, functionsOfAll, nodes, List.filterMap_cons, function?,
      List.filterMap_append, List.any_append]

theorem Node.anyAsync_eq (nodes : List Node) :
    Node.anyAsync nodes = (Node.functionsOfAll nodes).any Function.isAsync := by
  match nodes with
  | [] => rfl
  | n :: rest =>
    rw [anyAsync, isAsync_eq n, anyAsync_eq rest]
    simp only [functions, functionsOfAll, nodesOfAll, List.filterMap_append, List.any_append]

end

/-! ## Both walks evaluate -/

/-- What is awaited where every call is made at once: nothing. -/
def awaitsNothing (_ : Function) : Bool :=
  false

/-- The progress with the bindings and the calls that evaluated nodes have left. -/
def Progress.after (p : Progress) (environment : Environment) (calls : List Call) : Progress :=
  ⟨environment, p.calls ++ calls⟩

/-- Whether a walk evaluates a node and adds the calls of the evaluated node to the log. -/
def Evaluates (s : Surroundings) (awaits : Function → Bool) (walk : StateM Progress Node)
    (n : Node) : Prop :=
  ∀ p, let r := n.evaluate s awaits p.environment
    walk.run p = (r.1, p.after r.2 (r.1.callsMade awaits))

/-- Whether a walk evaluates nodes and adds the calls of the evaluated nodes to the log. -/
def EvaluatesAll (s : Surroundings) (awaits : Function → Bool) (walk : StateM Progress (List Node))
    (nodes : List Node) : Prop :=
  ∀ p, let r := Node.evaluateAll s awaits p.environment nodes
    walk.run p = (r.1, p.after r.2 (Node.callsMadeByAll awaits r.1))

section Steps

variable {s : Surroundings} {awaits : Function → Bool} {walk : StateM Progress Node}
  {walkAll : StateM Progress (List Node)} {token : String} {kept : Option Operand}

theorem EvaluatesAll.nil : EvaluatesAll s awaits (return []) [] := by
  intro p
  simp only [Node.evaluateAll, Node.callsMadeByAll, Progress.after, List.append_nil]
  rfl

theorem EvaluatesAll.cons {n : Node} {rest : List Node} (first : Evaluates s awaits walk n)
    (others : EvaluatesAll s awaits walkAll rest) :
    EvaluatesAll s awaits (do let n ← walk; let rest ← walkAll; return n :: rest) (n :: rest) := by
  intro p
  calc
    _ = let q := walk.run p
        let r := walkAll.run q.2
        (q.1 :: r.1, r.2) := rfl
    _ = _ := by
      simp only [first p, others _, Node.evaluateAll, Node.callsMadeByAll, Progress.after,
        List.append_assoc]

theorem Evaluates.operator {op : Operator} {operands : List Node}
    (children : EvaluatesAll s awaits walkAll operands) :
    Evaluates s awaits
      (do
        let operands ← walkAll
        return .operator token op operands (some (op.applyTo operands)))
      (.operator token op operands kept) := by
  intro p
  calc
    _ = let q := walkAll.run p
        (Node.operator token op q.1 (some (op.applyTo q.1)), q.2) := rfl
    _ = _ := by simp only [children p, Node.evaluate, Node.callsMade]

theorem Evaluates.function {f : Function} {arguments : List Node}
    (children : EvaluatesAll s awaits walkAll arguments) :
    Evaluates s awaits
      (do
        let arguments ← walkAll
        let x ← Call.perform ⟨f, arguments.map Node.operand, awaits f⟩
        return .function token f arguments (some x))
      (.function token f arguments kept) := by
  intro p
  calc
    _ = let q := walkAll.run p
        let c : Call := ⟨f, q.1.map Node.operand, awaits f⟩
        (Node.function token f q.1 (some c.result), q.2.record c) := rfl
    _ = _ := by
      simp only [children p, Node.evaluate, Node.callsMade, Progress.after, Progress.record,
        List.append_assoc]

theorem Evaluates.invocation {parameters : List String} {scope : Scope} {body : Node}
    {arguments : List Node} (children : EvaluatesAll s awaits walkAll arguments)
    (inside : Evaluates s awaits walk body) :
    Evaluates s awaits
      (do
        let arguments ← walkAll
        if parameters.length < arguments.length then
          let e := FormulaError.tooManyArguments parameters arguments
          return .lambda token parameters scope body (some arguments) (some (.ofError e))
        else
          modify (·.bindArguments scope parameters arguments)
          let body ← walk
          return .lambda token parameters scope body (some arguments) (some body.operand))
      (.lambda token parameters scope body (some arguments) kept) := by
  intro p
  calc
    _ = let q := walkAll.run p
        if parameters.length < q.1.length then
          let e := FormulaError.tooManyArguments parameters q.1
          (Node.lambda token parameters scope body (some q.1) (some (.ofError e)), q.2)
        else
          let r := walk.run (q.2.bindArguments scope parameters q.1)
          (.lambda token parameters scope r.1 (some q.1) (some r.1.operand), r.2) := by
      simp only [StateT.run_bind]
      generalize walkAll.run p = q
      show StateT.run (ite _ _ _) _ = _
      split <;> rfl
    _ = _ := by
      simp only [children p, Node.evaluate]
      split
      · rename_i tooMany
        simp only [Node.callsMade, if_pos tooMany, List.append_nil]
      · rename_i enough
        simp only [inside _, Progress.bindArguments, Progress.after, Node.callsMade, if_neg enough,
          List.append_assoc]

end Steps

section Walks

variable {s : Surroundings}

mutual

/-- The walk that makes every call at once evaluates without awaiting anything. -/
theorem Node.run_evaluates (n : Node) : Evaluates s awaitsNothing (n.run s) n := by
  match n with
  | .literal .. | .failure .. | .reference .. | .parameter .. | .lambda _ _ _ _ none _ =>
    intro p
    simp only [run, evaluate, callsMade, Progress.after, List.append_nil]
    rfl
  | .operator token op operands _ => exact .operator (runAll_evaluates operands)
  | .function token f arguments _ => exact .function (runAll_evaluates arguments)
  | .lambda token parameters scope body (some arguments) _ =>
    exact .invocation (runAll_evaluates arguments) (run_evaluates body)

theorem Node.runAll_evaluates (nodes : List Node) :
    EvaluatesAll s awaitsNothing (Node.runAll s nodes) nodes := by
  match nodes with
  | [] => exact .nil
  | n :: rest => exact .cons (run_evaluates n) (runAll_evaluates rest)

end

/-- A tree without asynchronous functions is evaluated as well by the walk that awaits nothing. -/
theorem Node.run_evaluates_isAsync {n : Node} (immediate : ¬ n.isAsync) :
    Evaluates s Function.isAsync (n.run s) n := by
  have nothing : ∀ f ∈ n.functions, awaitsNothing f = f.isAsync := by
    intro f member
    rw [isAsync_eq, List.any_eq_true] at immediate
    exact (Bool.eq_false_iff.mpr fun isAsync => immediate ⟨f, member, isAsync⟩).symm
  intro p
  have same := evaluate_congr (s := s) p.environment n fun f member =>
    congrArg f.invoke (nothing f member)
  rw [← same, run_evaluates n p, callsMade_congr]
  rw [functions_evaluate]
  exact nothing

mutual

/-- The walk that awaits asynchronous functions evaluates, although it leaves trees without them to
the other walk. -/
theorem Node.runAwaiting_evaluates (n : Node) :
    Evaluates s Function.isAsync (n.runAwaiting s) n := by
  rw [runAwaiting.eq_def]
  split
  · match n with
    | .literal .. | .failure .. | .reference .. | .parameter .. =>
      rename_i async
      cases async
    | .lambda _ _ _ _ none _ =>
      intro p
      simp only [evaluate, callsMade, Progress.after, List.append_nil]
      rfl
    | .operator token op operands _ => exact .operator (runAllAwaiting_evaluates operands)
    | .function token f arguments _ => exact .function (runAllAwaiting_evaluates arguments)
    | .lambda token parameters scope body (some arguments) _ =>
      exact .invocation (runAllAwaiting_evaluates arguments) (runAwaiting_evaluates body)
  · rename_i immediate
    exact run_evaluates_isAsync immediate

theorem Node.runAllAwaiting_evaluates (nodes : List Node) :
    EvaluatesAll s Function.isAsync (Node.runAllAwaiting s nodes) nodes := by
  match nodes with
  | [] => exact .nil
  | n :: rest => exact .cons (runAwaiting_evaluates n) (runAllAwaiting_evaluates rest)

end

end Walks

/-- What is awaited by a session that waits for asynchronous functions, or does not. -/
def awaitsWhen (awaiting : Bool) : Function → Bool :=
  if awaiting then Function.isAsync else awaitsNothing

/-- A walk that evaluates the root of a formula evaluates the formula. -/
theorem Formula.after_eq {f : Formula} {s : Surroundings} {awaits : Function → Bool}
    {walk : StateM Progress Node} (evaluates : Evaluates s awaits walk f.root) :
    let r := f.root.evaluate s awaits f.environment
    f.after walk = (⟨r.1, r.2⟩, r.1.callsMade awaits) := by
  simp only [after, evaluates _, Progress.after, List.nil_append]

/-- The evaluation of a formula in a session. -/
theorem Session.evaluate_eq {s : Session} {awaiting : Bool} {f : Formula} :
    let r := f.root.evaluate s.surroundings (awaitsWhen awaiting) f.environment
    s.evaluate awaiting (some f) =
      ⟨r.1.operand, some ⟨r.1, r.2⟩, r.1.callsMade (awaitsWhen awaiting)⟩ := by
  have immediately := Formula.after_eq (Node.run_evaluates (s := s.surroundings) f.root)
  cases awaiting with
  | false => simp only [evaluate, Bool.false_eq_true, if_false, Formula.run, immediately, awaitsWhen]
  | true =>
    have waiting : f.runAwaiting s.surroundings =
        f.after (f.root.runAwaiting s.surroundings) := by
      unfold Formula.runAwaiting
      split
      · rfl
      · rename_i immediate
        rw [Node.containsAsyncCall_eq, ← Node.isAsync_eq] at immediate
        rw [Node.runAwaiting.eq_def, if_neg immediate, Formula.run]
    simp only [evaluate, if_true, waiting, Formula.after_eq (Node.runAwaiting_evaluates f.root),
      awaitsWhen]

/-- The result of a formula does not depend on what its nodes have kept. -/
theorem Session.result_evaluate {s : Session} {awaiting : Bool} {f : Formula} {n : Node}
    (tree : f.root.unevaluated = n) :
    (s.evaluate awaiting (some f)).result =
      (n.evaluate s.surroundings (awaitsWhen awaiting) f.environment).1.operand := by
  rw [evaluate_eq, ← tree]
  exact (Node.evaluate_unevaluated f.environment f.root).2.1.symm

end Spreadsheet
