import Spreadsheet.Proofs.Lexical

/-!
# Parameters inside invocations

A parameter stands for the argument that the innermost invocation around it binds to its name
(`Occurrence.LookedUp.resolved`).

`Node.occurrences` lists the parameters that an evaluation has reached, each with the invocations
around it. `Invocations.Bound` says what the scopes hold while a body is evaluated: the bindings of
the arguments, and for an argument that is a parameter itself a link that leads outward. Since links
lead outward, `Invocations.Bound.go_eq` follows them by induction on the number of steps that are
left, and meets no scope twice. `Invocations.Linked` adds that such an argument has been looked up
in bindings that are still there, and is what an evaluation preserves (`Node.lookedUp_evaluate`).
-/

namespace Spreadsheet

/-! ## Invocations -/

/-- An invocation of a lambda, with its arguments after their evaluation. -/
structure Invocation where
  parameters : List String
  scope : Scope
  arguments : List Node

def Invocation.openLambda (v : Invocation) : OpenLambda :=
  ⟨v.parameters, v.scope⟩

/-- Whether the lambda has a parameter of a given name; the case of ASCII letters does not count. -/
def Invocation.declares (v : Invocation) (name : String) : Bool :=
  v.parameters.any (equalIgnoringAsciiCase · name)

/-- The parameters that are left without an argument. -/
def Invocation.unapplied (v : Invocation) : List String :=
  v.parameters.drop v.arguments.length

/-- The argument that is bound to a name: that of the last parameter with its capital form. -/
def Invocation.argument? (v : Invocation) (name : String) : Option Node :=
  ((v.parameters.zip v.arguments).reverse.find? fun entry =>
    upperText entry.1 == upperText name).map (·.2)

theorem Invocation.argument?_congr {v : Invocation} {name name' : String}
    (same : upperText name = upperText name') : v.argument? name = v.argument? name' := by
  rw [argument?, argument?, same]

/-- The operand that a name stands for inside some invocations, the innermost of which comes
first. -/
def operandInside (around : List Invocation) (name : String) : Operand :=
  match around.findSome? (·.argument? name) with
  | some n => n.operand
  | none => .ofError (.unboundParameter name)

/-- A parameter in an evaluated tree, with the invocations in whose bodies it stands, the innermost
of which comes first. -/
structure Occurrence where
  around : List Invocation
  token : String
  scope : Scope
  result : Option Operand

mutual

/-- The parameters that the evaluation of a tree inside some invocations has reached. -/
def Node.occurrences (around : List Invocation) : Node → List Occurrence
  | .literal .. | .failure .. | .reference .. | .lambda _ _ _ _ none _ => []
  | .operator _ _ children _ | .function _ _ children _ => Node.occurrencesInAll around children
  | .parameter token scope kept => [⟨around, token, scope, kept⟩]
  | .lambda _ parameters scope body (some arguments) _ =>
    Node.occurrencesInAll around arguments ++
      if parameters.length < arguments.length then []
      else Node.occurrences (⟨parameters, scope, arguments⟩ :: around) body

/-- The parameters that the evaluation of several trees inside some invocations has reached. -/
def Node.occurrencesInAll (around : List Invocation) : List Node → List Occurrence
  | [] => []
  | n :: rest => Node.occurrences around n ++ Node.occurrencesInAll around rest

end

/-! ## Nesting -/

/-- Whether the scope of each of several lambdas lies inside those of the following ones, which have
shorter paths. -/
def Chained : List OpenLambda → Prop
  | [] => True
  | l :: rest =>
    l.scope.outer = rest.map (·.scope.id) ∧
      (∀ r ∈ rest, r.scope.id.length < l.scope.id.length) ∧ Chained rest

theorem Chained.of_append {inner outer : List OpenLambda} (chained : Chained (inner ++ outer)) :
    Chained outer := by
  induction inner with
  | nil => exact chained
  | cons l rest ih => exact ih chained.2.2

mutual

/-- Whether each parameter of a tree inside some lambdas is that of the innermost lambda which
declares it, and the scopes of lambdas in the tree lie inside those of lambdas around them. -/
def Node.NestedIn (lambdas : List OpenLambda) : Node → Prop
  | .literal .. | .failure .. | .reference .. => True
  | .operator _ _ children _ | .function _ _ children _ => Node.AllNestedIn lambdas children
  | .parameter token scope _ => parameterScope? lambdas token = some scope
  | .lambda _ parameters scope body none _ =>
    Chained (⟨parameters, scope⟩ :: lambdas) ∧ Node.NestedIn (⟨parameters, scope⟩ :: lambdas) body
  | .lambda _ parameters scope body (some arguments) _ =>
    Node.AllNestedIn lambdas arguments ∧ Chained (⟨parameters, scope⟩ :: lambdas) ∧
      Node.NestedIn (⟨parameters, scope⟩ :: lambdas) body

/-- Whether several trees inside some lambdas are nested in them. -/
def Node.AllNestedIn (lambdas : List OpenLambda) : List Node → Prop
  | [] => True
  | n :: rest => Node.NestedIn lambdas n ∧ Node.AllNestedIn lambdas rest

end

theorem Node.allNestedIn_iff {lambdas : List OpenLambda} {nodes : List Node} :
    Node.AllNestedIn lambdas nodes ↔ ∀ n ∈ nodes, n.NestedIn lambdas := by
  induction nodes with
  | nil => simp only [AllNestedIn, List.not_mem_nil, false_implies, implies_true]
  | cons n rest ih => rw [AllNestedIn, List.forall_mem_cons, ih]

mutual

/-- How a tree is nested does not depend on its results. -/
theorem Node.nestedIn_unevaluated {lambdas : List OpenLambda} (n : Node) :
    n.unevaluated.NestedIn lambdas ↔ n.NestedIn lambdas := by
  match n with
  | .literal .. | .failure .. | .reference .. | .parameter .. => rfl
  | .operator _ _ children _ | .function _ _ children _ =>
    simp only [unevaluated, NestedIn, allNestedIn_unevaluatedAll children]
  | .lambda _ _ _ body none _ => simp only [unevaluated, NestedIn, nestedIn_unevaluated body]
  | .lambda _ _ _ body (some arguments) _ =>
    simp only [unevaluated, NestedIn, nestedIn_unevaluated body,
      allNestedIn_unevaluatedAll arguments]

theorem Node.allNestedIn_unevaluatedAll {lambdas : List OpenLambda} (nodes : List Node) :
    Node.AllNestedIn lambdas (Node.unevaluatedAll nodes) ↔ Node.AllNestedIn lambdas nodes := by
  match nodes with
  | [] => rfl
  | n :: rest =>
    simp only [unevaluatedAll, AllNestedIn, nestedIn_unevaluated n,
      allNestedIn_unevaluatedAll rest]

end

mutual

/-- The scopes that a tree binds have longer paths than those of the lambdas around it. -/
theorem Node.NestedIn.length_lt {lambdas : List OpenLambda} {n : Node}
    (nested : n.NestedIn lambdas) {scope : Scope} (binds : scope ∈ n.scopes) {l : OpenLambda}
    (around : l ∈ lambdas) : l.scope.id.length < scope.id.length := by
  match n with
  | .literal .. | .failure .. | .reference .. | .parameter .. => cases binds
  | .operator _ _ children _ | .function _ _ children _ =>
    exact AllNestedIn.length_lt nested binds around
  | .lambda _ parameters own body none _ =>
    rcases List.mem_cons.mp binds with rfl | inBody
    · exact nested.1.2.1 l around
    · exact nested.2.length_lt inBody (List.mem_cons_of_mem _ around)
  | .lambda _ parameters own body (some arguments) _ =>
    rcases mem_scopes_lambda.mp binds with rfl | inArguments | inBody
    · exact nested.2.1.2.1 l around
    · exact AllNestedIn.length_lt nested.1 inArguments around
    · exact nested.2.2.length_lt inBody (List.mem_cons_of_mem _ around)

theorem Node.AllNestedIn.length_lt {lambdas : List OpenLambda} {nodes : List Node}
    (nested : Node.AllNestedIn lambdas nodes) {scope : Scope}
    (binds : scope ∈ Node.scopesOfAll nodes) {l : OpenLambda} (around : l ∈ lambdas) :
    l.scope.id.length < scope.id.length := by
  match nodes with
  | [] => cases binds
  | n :: rest =>
    rcases mem_scopesOfAll_cons.mp binds with here | later
    · exact nested.1.length_lt here around
    · exact AllNestedIn.length_lt nested.2 later around

end

/-- A new scope lies inside the scopes of open lambdas, if these are chained. -/
theorem Chained.inside {lambdas : List OpenLambda} {path : ScopeId} (chained : Chained lambdas)
    (parameters : List String) (shorter : ∀ l ∈ lambdas, l.scope.id.length < path.length) :
    Chained (⟨parameters, .inside (lambdas.head?.map (·.scope)) path⟩ :: lambdas) := by
  refine ⟨?_, ?_, chained⟩
  · match lambdas with
    | [] => rfl
    | l :: rest => exact congrArg (l.scope.id :: ·) chained.1
  · intro l around
    rw [Scope.id_inside]
    exact shorter l around

/-- Built trees are nested in the lambdas that are open at them. -/
theorem Builder.invariant_nestedIn {b : Builder} :
    b.Invariant fun lambdas path n =>
      Chained lambdas → (∀ l ∈ lambdas, l.scope.id.length < path.length) →
        n.NestedIn lambdas where
  literal _ _ _ _ _ := trivial
  failure _ _ _ _ _ _ := trivial
  reference _ _ _ _ _ _ _ _ := trivial
  parameter _ _ _ _ found _ _ := found
  operator _ _ _ _ _ each chained shorter := Node.allNestedIn_iff.mpr fun n member =>
    (each n member).elim fun _ nested =>
      nested chained fun l around => Nat.lt_succ_of_lt (shorter l around)
  function _ _ _ _ _ _ each chained shorter := Node.allNestedIn_iff.mpr fun n member =>
    (each n member).elim fun _ nested =>
      nested chained fun l around => Nat.lt_succ_of_lt (shorter l around)
  lambda lambdas path token parameters scope body invocation inside inBody inArguments := by
    intro chained shorter
    subst inside
    have within := chained.inside parameters shorter
    have bodyNested := inBody within (List.forall_mem_cons.mpr
      ⟨Nat.lt_succ_of_le (Nat.le_of_eq (congrArg List.length Scope.id_inside)),
        fun l around => Nat.lt_succ_of_lt (shorter l around)⟩)
    match invocation with
    | none => exact ⟨within, bodyNested⟩
    | some arguments =>
      refine ⟨Node.allNestedIn_iff.mpr fun n member => ?_, within, bodyNested⟩
      obtain ⟨i, nested⟩ := inArguments arguments rfl n member
      exact nested chained fun l around => Nat.lt_succ_of_lt (shorter l around)

/-! ## Bindings inside invocations -/

/-- Whether an evaluated node inside some invocations, if it is a parameter, is that of one of them
and has the operand that its name stands for there. -/
def Node.Settled (around : List Invocation) : Node → Prop
  | .parameter name scope kept => ∃ inner v outer, around = inner ++ v :: outer ∧ scope = v.scope ∧
    kept = some (operandInside (v :: outer) (upperText name))
  | _ => True

/-- Whether scopes hold the bindings of some invocations. Arguments are settled where links are not
too many. -/
structure Invocations.Bound (env : Environment) (maxDepth : Nat) (around : List Invocation) :
    Prop where
  chained : Chained (around.map Invocation.openLambda)
  frame : ∀ v ∈ around, ∀ key, (env.frame v.scope.id).lookup key =
    ((v.parameters.zip v.arguments).reverse.find? fun entry => upperText entry.1 == key).map
      fun entry => entry.2.binding
  settled : ∀ inner v outer, around = inner ++ v :: outer → outer.length ≤ maxDepth →
    ∀ n ∈ v.arguments, n.Settled outer

section Bound

variable {env env' : Environment} {maxDepth : Nat} {around : List Invocation} {name : String}

theorem Invocations.Bound.nil : Invocations.Bound env maxDepth [] where
  chained := trivial
  frame _ member := absurd member List.not_mem_nil
  settled _ _ _ split := absurd split.symm (List.append_ne_nil_of_right_ne_nil _ (List.cons_ne_nil _ _))

theorem Invocations.Bound.of_append {inner outer : List Invocation}
    (bound : Bound env maxDepth (inner ++ outer)) : Bound env maxDepth outer where
  chained := (List.map_append ▸ bound.chained : Chained _).of_append
  frame v member := bound.frame v (List.mem_append_right _ member)
  settled inner' v outer' split :=
    bound.settled (inner ++ inner') v outer' (by rw [split, List.append_assoc])

/-- Only the scopes of the invocations matter. -/
theorem Invocations.Bound.of_frame_eq (bound : Bound env maxDepth around)
    (same : ∀ v ∈ around, env'.frame v.scope.id = env.frame v.scope.id) :
    Bound env' maxDepth around where
  chained := bound.chained
  frame v member := same v member ▸ bound.frame v member
  settled := bound.settled

/-- Binding the arguments of an invocation leaves the scopes of those around it. -/
theorem Chained.frame_bindArguments {v : Invocation}
    (chained : Chained (v.openLambda :: around.map Invocation.openLambda)) (w : Invocation)
    (member : w ∈ around) :
    (env.bindArguments v.scope v.parameters v.arguments).frame w.scope.id =
      env.frame w.scope.id :=
  Environment.frame_bindArguments_of_ne fun same => Nat.ne_of_lt
    (chained.2.1 w.openLambda (List.mem_map_of_mem member)) (congrArg List.length same)

/-- After the arguments of an invocation have been bound, its scope holds their bindings. -/
theorem Invocations.Bound.enter (bound : Bound env maxDepth around) {v : Invocation}
    (chained : Chained (v.openLambda :: around.map Invocation.openLambda))
    (settled : around.length ≤ maxDepth → ∀ n ∈ v.arguments, n.Settled around) :
    Bound (env.bindArguments v.scope v.parameters v.arguments) maxDepth (v :: around) where
  chained := chained
  frame := by
    refine List.forall_mem_cons.mpr
      ⟨fun key => Environment.lookup_bindArguments, fun w member key => ?_⟩
    rw [chained.frame_bindArguments w member]
    exact bound.frame w member key
  settled inner w outer split := by
    cases inner with
    | nil =>
      obtain ⟨rfl, rfl⟩ := List.cons.inj split
      exact settled
    | cons first inner => exact bound.settled inner w outer (List.cons.inj split).2

/-- The binding of a name is that of the argument which the innermost invocation binds to it. -/
theorem Invocations.Bound.find?_eq {v : Invocation} {outer : List Invocation}
    (bound : Bound env maxDepth (v :: outer)) :
    env.find? v.scope name =
      ((v :: outer).findSome? (·.argument? name)).map Node.binding := by
  have ids : v.scope.id :: v.scope.outer = (v :: outer).map (·.scope.id) := by
    rw [List.map_cons, show v.scope.outer = _ from bound.chained.1, List.map_map]
    rfl
  have level : ∀ w ∈ v :: outer, (env.frame w.scope.id).lookup (upperText name) =
      (w.argument? name).map Node.binding := by
    intro w member
    rw [bound.frame w member, Invocation.argument?, Option.map_map]
    rfl
  rw [Environment.find?, ids, List.findSome?_map, List.map_findSome?, ← List.head?_filterMap,
    ← List.head?_filterMap]
  exact congrArg List.head? (List.filterMap_congr level)

/-- An argument that is found stands at some level, with fewer levels further out. -/
theorem exists_of_findSome?_argument? {v : Invocation} {outer : List Invocation} {n : Node}
    (found : (v :: outer).findSome? (·.argument? name) = some n) :
    ∃ inner w farther, v :: outer = inner ++ w :: farther ∧ farther <:+ outer ∧
      n ∈ w.arguments := by
  obtain ⟨inner, w, farther, split, here, -⟩ := List.findSome?_eq_some_iff.mp found
  obtain ⟨entry, first, rfl⟩ := Option.map_eq_some_iff.mp here
  have member := List.mem_reverse.mp (List.mem_of_find?_eq_some first)
  refine ⟨inner, w, farther, split, ?_, (List.of_mem_zip member).2⟩
  cases inner with
  | nil => exact (List.cons.inj split).2 ▸ List.suffix_refl _
  | cons _ inner => exact ⟨inner ++ [w], by rw [(List.cons.inj split).2, List.append_assoc]; rfl⟩

/-- A parameter resolves to the operand that its name stands for, over at most as many links as
there are invocations around it. -/
theorem Invocations.Bound.go_eq {v : Invocation} {outer : List Invocation}
    (bound : Bound env maxDepth (v :: outer)) (shallow : outer.length ≤ maxDepth) {steps : Nat}
    (enough : outer.length < steps) {visited : List (ScopeId × String)}
    (outside : ∀ entry ∈ visited, v.scope.id.length < entry.1.length) :
    Environment.resolve.go env maxDepth steps visited v.scope name =
        .ok (operandInside (v :: outer) name) ∨
      ∃ e, Environment.resolve.go env maxDepth steps visited v.scope name = .error e ∧
        operandInside (v :: outer) name = .ofError e := by
  induction steps generalizing v outer visited name with
  | zero => exact absurd enough (Nat.not_lt_zero _)
  | succ steps ih =>
    have fresh : (v.scope.id, name) ∉ visited := fun member =>
      Nat.lt_irrefl _ (outside _ member)
    rw [Environment.resolve.go, if_neg fresh, bound.find?_eq, operandInside]
    cases found : (v :: outer).findSome? (·.argument? name) with
    | none => exact .inr ⟨_, rfl, rfl⟩
    | some n =>
      obtain ⟨inner, w, farther, split, suffix, argument⟩ := exists_of_findSome?_argument? found
      have depth : farther.length ≤ maxDepth := Nat.le_trans suffix.length_le shallow
      have settled := bound.settled inner w farther split depth n argument
      cases n with
      | literal | failure | operator | function | reference | lambda => exact .inl rfl
      | parameter next scope kept =>
        -- The link leads to an invocation further out, whose scope has not been visited.
        obtain ⟨between, u, outermost, rfl, rfl, rfl⟩ := settled
        have target : Bound env maxDepth (u :: outermost) := by
          rw [split, ← List.singleton_append, ← List.append_assoc, ← List.append_assoc] at bound
          exact bound.of_append
        have member : u ∈ outer := suffix.mem (List.mem_append_right _ List.mem_cons_self)
        have shorter : u.scope.id.length < v.scope.id.length :=
          bound.chained.2.1 u.openLambda (List.mem_map_of_mem member)
        have fewer : outermost.length < outer.length := by
          have := suffix.length_le
          simp only [List.length_append, List.length_cons] at this
          omega
        exact ih target (by omega) (by omega) (List.forall_mem_cons.mpr
          ⟨shorter, fun entry visited => Nat.lt_trans shorter (outside entry visited)⟩)

/-- What a parameter inside invocations is evaluated to. -/
theorem Invocations.Bound.lookup_eq {maxDepth : Nat} {v : Invocation} {outer : List Invocation}
    (bound : Bound env maxDepth (v :: outer)) (name : String) :
    ((v :: outer).findSome? (·.argument? (upperText name)) = none →
      env.lookup maxDepth v.scope name = .ofError (.unboundParameter (upperText name))) ∧
    (outer.length ≤ maxDepth →
      env.lookup maxDepth v.scope name = operandInside (v :: outer) (upperText name)) := by
  refine ⟨fun missing => ?_, fun shallow => ?_⟩
  · rw [Environment.lookup, Environment.resolve, Environment.resolve.go,
      if_neg List.not_mem_nil, bound.find?_eq, missing]
    rfl
  · rw [Environment.lookup, Environment.resolve]
    rcases bound.go_eq shallow (Nat.lt_succ_of_le shallow)
      (fun entry (member : entry ∈ []) => absurd member List.not_mem_nil) with ok | ⟨e, error, same⟩
    · rw [ok]
    · rw [error, same]

end Bound

/-! ## Parameters that have been looked up -/

/-- Whether an evaluated node inside some invocations, if it is a parameter, is that of one of them
and has been looked up among bindings that are still there. -/
def Node.LookedUp (env : Environment) (maxDepth : Nat) (around : List Invocation) : Node → Prop
  | .parameter name scope kept => (∃ inner v outer, around = inner ++ v :: outer ∧ scope = v.scope) ∧
    kept = some (env.lookup maxDepth scope name)
  | _ => True

/-- Whether scopes hold the bindings of some invocations, whose arguments have been looked up
further out. -/
structure Invocations.Linked (env : Environment) (maxDepth : Nat) (around : List Invocation) : Prop
    extends Bound env maxDepth around where
  lookedUp : ∀ inner v outer, around = inner ++ v :: outer →
    ∀ n ∈ v.arguments, n.LookedUp env maxDepth outer

section Linked

variable {env env' : Environment} {maxDepth : Nat} {around : List Invocation}

theorem Invocations.Linked.nil : Linked env maxDepth [] where
  toBound := .nil
  lookedUp _ _ _ split := absurd split.symm (List.append_ne_nil_of_right_ne_nil _ (List.cons_ne_nil _ _))

theorem Invocations.Linked.of_append {inner outer : List Invocation}
    (linked : Linked env maxDepth (inner ++ outer)) : Linked env maxDepth outer where
  toBound := linked.toBound.of_append
  lookedUp inner' v outer' split :=
    linked.lookedUp (inner ++ inner') v outer' (by rw [split, List.append_assoc])

/-- A name inside an invocation is bound to an operand, to a parameter of an invocation further out,
or to nothing. -/
theorem Invocations.Linked.find?_cases {v : Invocation} {outer : List Invocation}
    (linked : Linked env maxDepth (v :: outer)) (name : String) :
    env.find? v.scope name = none ∨ (∃ x, env.find? v.scope name = some (.operand x)) ∨
      ∃ next between u outermost, outer = between ++ u :: outermost ∧
        env.find? v.scope name = some (.parameter next u.scope) := by
  rw [linked.find?_eq]
  cases found : (v :: outer).findSome? (·.argument? name) with
  | none => exact .inl rfl
  | some n =>
    obtain ⟨inner, w, farther, split, ⟨passed, suffix⟩, argument⟩ :=
      exists_of_findSome?_argument? found
    have lookedUp := linked.lookedUp inner w farther split n argument
    cases n with
    | literal | failure | operator | function | reference | lambda =>
      exact .inr (.inl ⟨_, rfl⟩)
    | parameter next scope kept =>
      obtain ⟨⟨between, u, outermost, rfl, rfl⟩, -⟩ := lookedUp
      exact .inr (.inr ⟨next, passed ++ between, u, outermost,
        by rw [← suffix, List.append_assoc], rfl⟩)

/-- What a link inside invocations leads to. -/
theorem Invocations.Linked.outward {v u : Invocation} {between outermost : List Invocation}
    (linked : Linked env maxDepth (v :: (between ++ u :: outermost))) :
    Linked env maxDepth (u :: outermost) ∧ u.scope.id.length < v.scope.id.length := by
  refine ⟨(List.cons_append ▸ linked : Linked env maxDepth (v :: between ++ _)).of_append, ?_⟩
  exact linked.chained.2.1 u.openLambda
    (List.mem_map_of_mem (List.mem_append_right _ List.mem_cons_self))

/-- A search for the operand of a name sees only the scopes of the invocations. -/
theorem Invocations.Linked.go_congr {v : Invocation} {outer : List Invocation}
    (linked : Linked env maxDepth (v :: outer))
    (same : ∀ w ∈ v :: outer, env'.frame w.scope.id = env.frame w.scope.id) {limit steps : Nat}
    {visited : List (ScopeId × String)} {name : String} :
    Environment.resolve.go env' limit steps visited v.scope name =
      Environment.resolve.go env limit steps visited v.scope name := by
  induction steps generalizing v outer visited name with
  | zero => rfl
  | succ steps ih =>
    have nearest : env'.find? v.scope name = env.find? v.scope name := by
      rw [linked.find?_eq, (linked.toBound.of_frame_eq same).find?_eq]
    rw [Environment.resolve.go, Environment.resolve.go, nearest]
    rcases linked.find?_cases name with none | ⟨x, operand⟩ | ⟨next, between, u, outermost, rfl, link⟩
    · rw [none]
    · rw [operand]
    · rw [link]
      simp only [ih linked.outward.1 fun w member => same w
        (List.mem_cons_of_mem _ (List.mem_append_right _ member))]

/-- Where links are not too many, a parameter that has been looked up is settled. -/
theorem Node.LookedUp.settled {n : Node} (lookedUp : n.LookedUp env maxDepth around)
    (bound : Invocations.Bound env maxDepth around) (shallow : around.length ≤ maxDepth) :
    n.Settled around := by
  match n with
  | .literal .. | .failure .. | .operator .. | .function .. | .reference .. | .lambda .. =>
    exact trivial
  | .parameter name _ _ =>
    obtain ⟨⟨inner, v, outer, rfl, rfl⟩, rfl⟩ := lookedUp
    rw [List.length_append, List.length_cons] at shallow
    exact ⟨inner, v, outer, rfl, rfl, congrArg some ((bound.of_append.lookup_eq name).2 (by omega))⟩

/-- Nodes stay looked up while the bindings of the invocations around them stay. -/
theorem Node.LookedUp.of_frame_eq {n : Node} (lookedUp : n.LookedUp env maxDepth around)
    (linked : Invocations.Linked env maxDepth around)
    (same : ∀ v ∈ around, env'.frame v.scope.id = env.frame v.scope.id) :
    n.LookedUp env' maxDepth around := by
  match n with
  | .literal .. | .failure .. | .operator .. | .function .. | .reference .. | .lambda .. =>
    exact trivial
  | .parameter name _ _ =>
    obtain ⟨⟨inner, v, outer, rfl, rfl⟩, rfl⟩ := lookedUp
    refine ⟨⟨inner, v, outer, rfl, rfl⟩, ?_⟩
    rw [Environment.lookup, Environment.lookup, Environment.resolve, Environment.resolve,
      linked.of_append.go_congr fun w member => same w (List.mem_append_right _ member)]

theorem Invocations.Linked.of_frame_eq (linked : Linked env maxDepth around)
    (same : ∀ v ∈ around, env'.frame v.scope.id = env.frame v.scope.id) :
    Linked env' maxDepth around where
  toBound := linked.toBound.of_frame_eq same
  lookedUp inner v outer split n argument := by
    subst split
    rw [← List.singleton_append, ← List.append_assoc] at linked same
    exact (linked.lookedUp _ v outer (List.append_assoc ..) n argument).of_frame_eq linked.of_append
      fun w member => same w (List.mem_append_right _ member)

/-- After the arguments of an invocation have been looked up and bound, its scope is linked too. -/
theorem Invocations.Linked.enter (linked : Linked env maxDepth around) {v : Invocation}
    (chained : Chained (v.openLambda :: around.map Invocation.openLambda))
    (lookedUp : ∀ n ∈ v.arguments, n.LookedUp env maxDepth around) :
    Linked (env.bindArguments v.scope v.parameters v.arguments) maxDepth (v :: around) where
  toBound := linked.toBound.enter chained fun shallow n argument =>
    (lookedUp n argument).settled linked.toBound shallow
  lookedUp inner w outer split := by
    cases inner with
    | nil =>
      obtain ⟨rfl, rfl⟩ := List.cons.inj split
      exact fun n argument => (lookedUp n argument).of_frame_eq linked chained.frame_bindArguments
    | cons first inner =>
      have further := linked.of_frame_eq chained.frame_bindArguments
      exact further.lookedUp inner w outer (List.cons.inj split).2

/-- The evaluation of a tree leaves the bindings of the invocations around it. -/
theorem Node.NestedIn.frame_evaluate {n : Node}
    (nested : n.NestedIn (around.map Invocation.openLambda)) {s : Surroundings}
    {awaits : Function → Bool} (v : Invocation) (member : v ∈ around) :
    (n.evaluate s awaits env).2.frame v.scope.id = env.frame v.scope.id :=
  Node.frame_evaluate env n fun _ binds same =>
    Nat.ne_of_lt (nested.length_lt binds (List.mem_map_of_mem member)) (congrArg List.length same)

theorem Node.AllNestedIn.frame_evaluateAll {nodes : List Node}
    (nested : Node.AllNestedIn (around.map Invocation.openLambda) nodes) {s : Surroundings}
    {awaits : Function → Bool} (v : Invocation) (member : v ∈ around) :
    (Node.evaluateAll s awaits env nodes).2.frame v.scope.id = env.frame v.scope.id :=
  Node.frame_evaluateAll env nodes fun _ binds same =>
    Nat.ne_of_lt (nested.length_lt binds (List.mem_map_of_mem member)) (congrArg List.length same)

end Linked

/-! ## Parameters of an evaluated tree -/

/-- Whether a parameter has the operand that its name stands for in the innermost invocation which
declares it and in those around it. A name that none of these binds is unbound; other operands may
be out of reach if there are too many links. -/
def Occurrence.Resolved (maxDepth : Nat) (o : Occurrence) : Prop :=
  ∀ inner v outer, o.around = inner ++ v :: outer → (∀ w ∈ inner, ¬ w.declares o.token) →
    v.declares o.token →
    ((v :: outer).findSome? (·.argument? (upperText o.token)) = none →
      o.result = some (.ofError (.unboundParameter (upperText o.token)))) ∧
    (o.around.length ≤ maxDepth →
      o.result = some (operandInside (v :: outer) (upperText o.token)))

section Declared

variable {around : List Invocation}

/-- The scope of a parameter is that of the innermost invocation which declares it. -/
theorem parameterScope?_map_openLambda {name : String} :
    parameterScope? (around.map Invocation.openLambda) name =
      (around.find? (·.declares name)).map (·.scope) := by
  rw [parameterScope?, List.find?_map, Option.map_map]
  rfl

theorem find?_declares_of_innermost {name : String} {inner outer : List Invocation}
    {v : Invocation} (innermost : ∀ w ∈ inner, ¬ w.declares name) (declares : v.declares name) :
    (inner ++ v :: outer).find? (·.declares name) = some v := by
  refine List.find?_eq_some_iff_append.mpr ⟨declares, inner, outer, rfl, fun w member => ?_⟩
  rw [Bool.eq_false_iff.mpr (innermost w member), Bool.not_false]

end Declared

/-- Whether a parameter has been looked up in the scope of the innermost invocation which declares
it, among the bindings of all invocations around it. -/
def Occurrence.LookedUp (maxDepth : Nat) (o : Occurrence) : Prop :=
  ∃ env, Invocations.Linked env maxDepth o.around ∧
    (o.around.find? (·.declares o.token)).map (·.scope) = some o.scope ∧
    o.result = some (env.lookup maxDepth o.scope o.token)

section Evaluation

variable {s : Surroundings} {awaits : Function → Bool}

mutual

/-- Every parameter that the evaluation of a tree reaches has been looked up. -/
theorem Node.lookedUp_evaluate {env : Environment} {around : List Invocation}
    (linked : Invocations.Linked env s.maxParameterDepth around) (n : Node)
    (nested : n.NestedIn (around.map Invocation.openLambda)) :
    (∀ o ∈ (n.evaluate s awaits env).1.occurrences around, o.LookedUp s.maxParameterDepth) ∧
      (n.evaluate s awaits env).1.LookedUp (n.evaluate s awaits env).2 s.maxParameterDepth
        around := by
  match n with
  | .literal .. | .failure .. | .reference .. | .lambda _ _ _ _ none _ =>
    exact ⟨fun o member => absurd member List.not_mem_nil, trivial⟩
  | .operator _ _ children _ | .function _ _ children _ =>
    obtain ⟨-, lookedUp, -⟩ := lookedUpInAll_evaluateAll linked children nested
    exact ⟨lookedUp, trivial⟩
  | .parameter token scope _ =>
    have found : (around.find? (·.declares token)).map (·.scope) = some scope :=
      parameterScope?_map_openLambda.symm.trans nested
    refine ⟨List.forall_mem_singleton.mpr ⟨env, linked, found, rfl⟩, ?_, rfl⟩
    obtain ⟨v, first, rfl⟩ := Option.map_eq_some_iff.mp found
    obtain ⟨-, inner, outer, split, -⟩ := List.find?_eq_some_iff_append.mp first
    exact ⟨inner, v, outer, split, rfl⟩
  | .lambda _ parameters scope body (some arguments) _ =>
    obtain ⟨inArguments, chained, inBody⟩ := nested
    obtain ⟨after, lookedUp, results⟩ := lookedUpInAll_evaluateAll linked arguments inArguments
    obtain ⟨lookedUpInBody, -⟩ :=
      lookedUp_evaluate (after.enter (v := ⟨parameters, scope, _⟩) chained results) body inBody
    simp only [evaluate]
    split
    · rename_i tooMany
      refine ⟨?_, trivial⟩
      simp only [occurrences, if_pos tooMany, List.append_nil]
      exact lookedUp
    · rename_i enough
      refine ⟨?_, trivial⟩
      simp only [occurrences, if_neg enough, List.forall_mem_append]
      exact ⟨lookedUp, lookedUpInBody⟩

theorem Node.lookedUpInAll_evaluateAll {env : Environment} {around : List Invocation}
    (linked : Invocations.Linked env s.maxParameterDepth around) (nodes : List Node)
    (nested : Node.AllNestedIn (around.map Invocation.openLambda) nodes) :
    Invocations.Linked (Node.evaluateAll s awaits env nodes).2 s.maxParameterDepth around ∧
    (∀ o ∈ Node.occurrencesInAll around (Node.evaluateAll s awaits env nodes).1,
      o.LookedUp s.maxParameterDepth) ∧
    ∀ n ∈ (Node.evaluateAll s awaits env nodes).1,
      n.LookedUp (Node.evaluateAll s awaits env nodes).2 s.maxParameterDepth around := by
  match nodes with
  | [] =>
    exact ⟨linked, fun o member => absurd member List.not_mem_nil,
      fun n member => absurd member List.not_mem_nil⟩
  | n :: rest =>
    obtain ⟨here, there⟩ := nested
    obtain ⟨lookedUp, result⟩ := lookedUp_evaluate linked n here
    have between : Invocations.Linked (n.evaluate s awaits env).2 s.maxParameterDepth around :=
      linked.of_frame_eq here.frame_evaluate
    obtain ⟨after, lookedUpInRest, results⟩ := lookedUpInAll_evaluateAll between rest there
    simp only [evaluateAll, occurrencesInAll, List.forall_mem_append, List.forall_mem_cons]
    exact ⟨after, ⟨lookedUp, lookedUpInRest⟩,
      result.of_frame_eq between there.frame_evaluateAll, results⟩

end

/-- A parameter that has been looked up has the operand that its name stands for. -/
theorem Occurrence.LookedUp.resolved {maxDepth : Nat} {o : Occurrence}
    (lookedUp : o.LookedUp maxDepth) : o.Resolved maxDepth := by
  intro inner v outer split innermost declares
  obtain ⟨env, linked, found, result⟩ := lookedUp
  rw [split, find?_declares_of_innermost innermost declares] at found
  rw [split] at linked
  obtain ⟨unbound, operand⟩ := linked.of_append.toBound.lookup_eq o.token
  rw [result, split, ← Option.some.inj found]
  refine ⟨fun missing => congrArg some (unbound missing), fun shallow => ?_⟩
  rw [List.length_append, List.length_cons] at shallow
  exact congrArg some (operand (by omega))

end Evaluation

/-- Every parameter of an evaluated formula has been looked up. -/
theorem Session.lookedUp_of_evaluate {b : Builder} {t : ParseTree} {s : Session} {awaiting : Bool}
    {f g : Formula} (tree : f.root.unevaluated = b.build t)
    (evaluated : (s.evaluate awaiting (some f)).formula = some g) :
    ∀ o ∈ g.root.occurrences [], o.LookedUp s.config.options.maxParameterDepth := by
  have nested : f.root.NestedIn [] := by
    rw [← Node.nestedIn_unevaluated, tree]
    exact Builder.invariant_nestedIn.make t trivial fun l member => absurd member List.not_mem_nil
  rw [evaluate_eq] at evaluated
  cases evaluated
  exact (Node.lookedUp_evaluate .nil f.root nested).1

end Spreadsheet
