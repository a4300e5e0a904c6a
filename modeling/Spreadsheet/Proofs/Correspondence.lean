import Spreadsheet.Proofs.Building

/-!
# Two evaluations of one tree

A relation between the operands of two evaluations is kept by a whole tree if each of its nodes
keeps it (`Node.evaluate_related`). The two evaluations may read other cells and start with other
bindings. All that is asked of the bindings is that they are related in the scopes that parameters
of the tree look into, and that links lead to such scopes again; evaluation of a lambda adds its own
scope to them.
-/

namespace Spreadsheet

/-! ## Related bindings -/

/-- Whether a scope and all scopes around it are among some scopes. -/
def Scope.Within (V : ScopeId → Prop) (scope : Scope) : Prop :=
  V scope.id ∧ ∀ id ∈ scope.outer, V id

theorem Scope.Within.mono {V W : ScopeId → Prop} {scope : Scope} (grows : ∀ id, V id → W id)
    (within : scope.Within V) : scope.Within W :=
  ⟨grows _ within.1, fun id member => grows id (within.2 id member)⟩

/-- Whether two bindings are related: related operands, or one and the same link into some
scopes. -/
inductive Binding.Related (R : Operand → Operand → Prop) (V : ScopeId → Prop) :
    Binding → Binding → Prop
  | operand {x y : Operand} (related : R x y) : Related R V (.operand x) (.operand y)
  | parameter {name : String} {scope : Scope} (within : scope.Within V) :
      Related R V (.parameter name scope) (.parameter name scope)

/-- Whether two evaluations have related bindings in some scopes. -/
def Environment.Related (R : Operand → Operand → Prop) (V : ScopeId → Prop)
    (env env' : Environment) : Prop :=
  ∀ id, V id → ∀ key,
    Option.Rel (Binding.Related R V) ((env.frame id).lookup key) ((env'.frame id).lookup key)

section Bindings

variable {R : Operand → Operand → Prop} {V W : ScopeId → Prop} {env env' : Environment}

theorem Binding.Related.mono (grows : ∀ id, V id → W id) {β β' : Binding}
    (related : Binding.Related R V β β') : Binding.Related R W β β' := by
  cases related with
  | operand related => exact .operand related
  | parameter within => exact .parameter (within.mono grows)

theorem Option.Rel.imp {α β : Type} {P Q : α → β → Prop} (implies : ∀ x y, P x y → Q x y)
    {a : Option α} {b : Option β} (related : Option.Rel P a b) : Option.Rel Q a b := by
  cases related with
  | some related => exact .some (implies _ _ related)
  | none => exact .none

/-- The first results of two functions on one list are related if all of them are. -/
theorem Option.Rel.findSome? {α β γ : Type} {P : β → γ → Prop} {f : α → Option β}
    {g : α → Option γ} {xs : List α} (each : ∀ x ∈ xs, Option.Rel P (f x) (g x)) :
    Option.Rel P (xs.findSome? f) (xs.findSome? g) := by
  induction xs with
  | nil => exact .none
  | cons x rest ih =>
    rw [List.forall_mem_cons] at each
    obtain ⟨here, later⟩ := each
    rw [List.findSome?_cons, List.findSome?_cons]
    generalize f x = a at here
    generalize g x = b at here
    cases here with
    | some related => exact .some related
    | none => exact ih later

/-- The bindings of a name are related. -/
theorem Environment.Related.find? (related : Environment.Related R V env env') {scope : Scope}
    (within : scope.Within V) (name : String) :
    Option.Rel (Binding.Related R V) (env.find? scope name) (env'.find? scope name) :=
  Option.Rel.findSome? (List.forall_mem_cons.mpr
    ⟨related scope.id within.1 _, fun id member => related id (within.2 id member) _⟩)

/-- Names resolve to related operands, or to the same error. -/
theorem Environment.Related.go (related : Environment.Related R V env env') (maxDepth : Nat)
    {steps : Nat} {visited : List (ScopeId × String)} {scope : Scope} {name : String}
    (within : scope.Within V) :
    (∃ x y, Environment.resolve.go env maxDepth steps visited scope name = .ok x ∧
        Environment.resolve.go env' maxDepth steps visited scope name = .ok y ∧ R x y) ∨
      ∃ e, Environment.resolve.go env maxDepth steps visited scope name = .error e ∧
        Environment.resolve.go env' maxDepth steps visited scope name = .error e := by
  induction steps generalizing visited scope name with
  | zero => exact .inr ⟨_, rfl, rfl⟩
  | succ steps ih =>
    rw [Environment.resolve.go, Environment.resolve.go]
    split
    · exact .inr ⟨_, rfl, rfl⟩
    · have bindings := related.find? within name
      generalize env.find? scope name = a at bindings
      generalize env'.find? scope name = b at bindings
      cases bindings with
      | none => exact .inr ⟨_, rfl, rfl⟩
      | some binding =>
        cases binding with
        | operand operands => exact .inl ⟨_, _, rfl, rfl, operands⟩
        | parameter further => exact ih further

/-- Parameters stand for related operands. -/
theorem Environment.Related.lookup (related : Environment.Related R V env env')
    (errors : ∀ e, R (.ofError e) (.ofError e)) {maxDepth : Nat} {scope : Scope} {name : String}
    (within : scope.Within V) :
    R (env.lookup maxDepth scope name) (env'.lookup maxDepth scope name) := by
  rw [Environment.lookup, Environment.lookup, Environment.resolve, Environment.resolve]
  rcases related.go maxDepth within with ⟨x, y, left, right, operands⟩ | ⟨e, left, right⟩
  · rw [left, right]
    exact operands
  · rw [left, right]
    exact errors e

/-- Whether two evaluated nodes have related results, and bind parameters to related bindings. -/
def Node.ResultsRelated (R : Operand → Operand → Prop) (V : ScopeId → Prop) (n m : Node) : Prop :=
  R n.operand m.operand ∧ Binding.Related R V n.binding m.binding

theorem Node.ResultsRelated.operands {nodes nodes' : List Node}
    (related : List.Forall₂ (Node.ResultsRelated R V) nodes nodes') :
    List.Forall₂ R (nodes.map Node.operand) (nodes'.map Node.operand) :=
  List.forall₂_map_left_iff.mpr (List.forall₂_map_right_iff.mpr
    (related.imp fun _ _ results => results.1))

/-- Invocations with related arguments bind a scope to related bindings. -/
theorem Environment.Related.bindArguments (related : Environment.Related R V env env')
    {scope : Scope} {parameters : List String} {nodes nodes' : List Node}
    (arguments : List.Forall₂ (Node.ResultsRelated R V) nodes nodes') :
    Environment.Related R (fun id => id = scope.id ∨ V id)
      (env.bindArguments scope parameters nodes) (env'.bindArguments scope parameters nodes') := by
  have grows : ∀ β β', Binding.Related R V β β' →
      Binding.Related R (fun id => id = scope.id ∨ V id) β β' :=
    fun _ _ => Binding.Related.mono fun _ => .inr
  intro id visible key
  by_cases here : id = scope.id
  · subst here
    rw [lookup_bindArguments, lookup_bindArguments]
    have entries : List.Forall₂ (fun entry entry' => entry.1 = entry'.1 ∧
        Node.ResultsRelated R V entry.2 entry'.2) (parameters.zip nodes).reverse
        (parameters.zip nodes').reverse := List.rel_reverse (forall₂_zip_keys arguments)
    generalize (parameters.zip nodes).reverse = pairs at entries
    generalize (parameters.zip nodes').reverse = pairs' at entries
    induction entries with
    | nil => exact .none
    | cons first others ih =>
      rw [List.find?_cons, List.find?_cons, first.1]
      split
      · exact .some (grows _ _ first.2.2)
      · exact ih
  · rw [frame_bindArguments_of_ne here, frame_bindArguments_of_ne here]
    exact Option.Rel.imp grows (related id (visible.resolve_left here) key)

end Bindings

/-! ## Related evaluations -/

mutual

/-- Whether the parameters of a tree look into some scopes or into those of the lambdas around
them. -/
def Node.ScopedIn (V : ScopeId → Prop) : Node → Prop
  | .literal .. | .failure .. | .reference .. => True
  | .operator _ _ children _ | .function _ _ children _ => Node.AllScopedIn V children
  | .parameter _ scope _ => scope.Within V
  | .lambda _ _ scope body none _ => Node.ScopedIn (fun id => id = scope.id ∨ V id) body
  | .lambda _ _ scope body (some arguments) _ =>
    Node.AllScopedIn V arguments ∧ Node.ScopedIn (fun id => id = scope.id ∨ V id) body

/-- Whether the parameters of several trees look into some scopes or into those of the lambdas
around them. -/
def Node.AllScopedIn (V : ScopeId → Prop) : List Node → Prop
  | [] => True
  | n :: rest => Node.ScopedIn V n ∧ Node.AllScopedIn V rest

end

mutual

theorem Node.ScopedIn.mono {V W : ScopeId → Prop} (grows : ∀ id, V id → W id) (n : Node)
    (closed : n.ScopedIn V) : n.ScopedIn W := by
  match n with
  | .literal .. | .failure .. | .reference .. => trivial
  | .parameter .. => exact Scope.Within.mono grows closed
  | .operator _ _ children _ | .function _ _ children _ =>
    exact AllScopedIn.mono grows children closed
  | .lambda _ _ scope body none _ =>
    exact ScopedIn.mono (fun id => Or.imp_right (grows id)) body closed
  | .lambda _ _ scope body (some arguments) _ =>
    exact ⟨AllScopedIn.mono grows arguments closed.1,
      ScopedIn.mono (fun id => Or.imp_right (grows id)) body closed.2⟩

theorem Node.AllScopedIn.mono {V W : ScopeId → Prop} (grows : ∀ id, V id → W id)
    (nodes : List Node) (closed : Node.AllScopedIn V nodes) : Node.AllScopedIn W nodes := by
  match nodes with
  | [] => trivial
  | n :: rest =>
    exact ⟨ScopedIn.mono grows n closed.1, AllScopedIn.mono grows rest closed.2⟩

end

/-- Whether a node by itself keeps a relation between the operands of two evaluations: it makes
related operands out of related ones. -/
def Node.Keeps (R : Operand → Operand → Prop) (s s' : Surroundings) (awaits : Function → Bool) :
    Node → Prop
  | .literal _ v _ => R (.value v) (.value v)
  | .operator _ op _ _ => ∀ xs ys, List.Forall₂ R xs ys →
    R (.value (op.apply (xs.map Operand.force))) (.value (op.apply (ys.map Operand.force)))
  | .function _ f _ _ => ∀ xs ys, List.Forall₂ R xs ys →
    R (f.invoke (awaits f) xs) (f.invoke (awaits f) ys)
  | .reference _ unit sheet range _ =>
    R (.reference ⟨unit, sheet, range, s.layers⟩) (.reference ⟨unit, sheet, range, s'.layers⟩)
  | .failure .. | .parameter .. | .lambda .. => True

section Evaluation

variable {R : Operand → Operand → Prop} {s s' : Surroundings} {awaits : Function → Bool}

mutual

/-- If every node of a tree keeps a relation, two evaluations of the tree with related bindings have
related results and leave related bindings. -/
theorem Node.evaluate_related (errors : ∀ e, R (.ofError e) (.ofError e))
    (depth : s.maxParameterDepth = s'.maxParameterDepth) {V : ScopeId → Prop}
    {env env' : Environment} (related : Environment.Related R V env env') (n : Node)
    (closed : n.ScopedIn V) (keeps : ∀ m ∈ n.nodes, m.Keeps R s s' awaits) :
    ∃ W : ScopeId → Prop, (∀ id, V id → W id) ∧
      Environment.Related R W (n.evaluate s awaits env).2 (n.evaluate s' awaits env').2 ∧
      Node.ResultsRelated R W (n.evaluate s awaits env).1 (n.evaluate s' awaits env').1 := by
  match n with
  | .literal _ v _ =>
    have here := keeps _ List.mem_cons_self
    exact ⟨V, fun _ => id, related, here, .operand here⟩
  | .failure _ e _ => exact ⟨V, fun _ => id, related, errors e, .operand (errors e)⟩
  | .reference .. =>
    have here := keeps _ List.mem_cons_self
    exact ⟨V, fun _ => id, related, here, .operand here⟩
  | .parameter token scope _ =>
    have here : R (env.lookup s.maxParameterDepth scope token)
        (env'.lookup s'.maxParameterDepth scope token) := depth ▸ related.lookup errors closed
    exact ⟨V, fun _ => id, related, here, .parameter closed⟩
  | .operator token op operands _ =>
    obtain ⟨W, grows, bindings, results⟩ := evaluateAll_related errors depth related operands closed
      fun m member => keeps m (List.mem_cons_of_mem _ member)
    have here := keeps _ List.mem_cons_self _ _ (ResultsRelated.operands results)
    simp only [evaluate, Operator.applyTo_eq]
    exact ⟨W, grows, bindings, here, .operand here⟩
  | .function token f arguments _ =>
    obtain ⟨W, grows, bindings, results⟩ := evaluateAll_related errors depth related arguments
      closed fun m member => keeps m (List.mem_cons_of_mem _ member)
    have here := keeps _ List.mem_cons_self _ _ (ResultsRelated.operands results)
    exact ⟨W, grows, bindings, here, .operand here⟩
  | .lambda token parameters scope body none _ =>
    exact ⟨V, fun _ => id, related, errors _, .operand (errors _)⟩
  | .lambda token parameters scope body (some arguments) _ =>
    have below : ∀ m ∈ Node.nodesOfAll arguments ++ body.nodes, m.Keeps R s s' awaits :=
      fun m member => keeps m (List.mem_cons_of_mem _ member)
    rw [List.forall_mem_append] at below
    obtain ⟨W, grows, bindings, results⟩ :=
      evaluateAll_related errors depth related arguments closed.1 below.1
    have inside : body.ScopedIn fun id => id = scope.id ∨ W id :=
      ScopedIn.mono (fun id => Or.imp_right (grows id)) body closed.2
    obtain ⟨X, wider, after, result⟩ :=
      evaluate_related errors depth (bindings.bindArguments results) body inside below.2
    simp only [evaluate, FormulaError.tooManyArguments, results.length_eq]
    split
    · exact ⟨W, grows, bindings, errors _, .operand (errors _)⟩
    · exact ⟨X, fun id visible => wider id (.inr (grows id visible)), after, result.1,
        .operand result.1⟩

theorem Node.evaluateAll_related (errors : ∀ e, R (.ofError e) (.ofError e))
    (depth : s.maxParameterDepth = s'.maxParameterDepth) {V : ScopeId → Prop}
    {env env' : Environment} (related : Environment.Related R V env env') (nodes : List Node)
    (closed : Node.AllScopedIn V nodes)
    (keeps : ∀ m ∈ Node.nodesOfAll nodes, m.Keeps R s s' awaits) :
    ∃ W : ScopeId → Prop, (∀ id, V id → W id) ∧
      Environment.Related R W (Node.evaluateAll s awaits env nodes).2
        (Node.evaluateAll s' awaits env' nodes).2 ∧
      List.Forall₂ (Node.ResultsRelated R W) (Node.evaluateAll s awaits env nodes).1
        (Node.evaluateAll s' awaits env' nodes).1 := by
  match nodes with
  | [] => exact ⟨V, fun _ => id, related, .nil⟩
  | n :: rest =>
    simp only [nodesOfAll, List.forall_mem_append] at keeps
    obtain ⟨W, grows, bindings, result⟩ :=
      evaluate_related errors depth related n closed.1 keeps.1
    obtain ⟨X, wider, after, results⟩ := evaluateAll_related errors depth bindings rest
      (AllScopedIn.mono grows rest closed.2) keeps.2
    exact ⟨X, fun id visible => wider id (grows id visible), after,
      .cons ⟨result.1, result.2.mono wider⟩ results⟩

end

end Evaluation

/-! ## Built trees -/

theorem Node.allScopedIn_iff {V : ScopeId → Prop} {nodes : List Node} :
    Node.AllScopedIn V nodes ↔ ∀ n ∈ nodes, n.ScopedIn V := by
  induction nodes with
  | nil => simp only [AllScopedIn, List.not_mem_nil, false_implies, implies_true]
  | cons n rest ih => rw [AllScopedIn, List.forall_mem_cons, ih]

/-- A new scope and all scopes around it are among the scopes of open lambdas and itself. -/
theorem Scope.within_inside {V : ScopeId → Prop} {lambdas : List OpenLambda} {path : ScopeId}
    (visible : ∀ l ∈ lambdas, l.scope.Within V) :
    (Scope.inside (lambdas.head?.map (·.scope)) path).Within fun id => id = path ∨ V id := by
  match lambdas with
  | [] => exact ⟨.inl rfl, fun id member => absurd member List.not_mem_nil⟩
  | l :: _ =>
    obtain ⟨own, around⟩ := visible l List.mem_cons_self
    exact ⟨.inl rfl, List.forall_mem_cons.mpr ⟨.inr own, fun id member => .inr (around id member)⟩⟩

/-- Parameters of a built tree look only into scopes of open lambdas and of lambdas around them. -/
theorem Builder.invariant_scopedIn {b : Builder} :
    b.Invariant fun lambdas _ n =>
      ∀ V : ScopeId → Prop, (∀ l ∈ lambdas, l.scope.Within V) → n.ScopedIn V where
  literal _ _ _ _ _ := trivial
  failure _ _ _ _ _ _ := trivial
  reference _ _ _ _ _ _ _ _ := trivial
  parameter lambdas path token scope found V visible := by
    obtain ⟨l, first, rfl⟩ := Option.map_eq_some_iff.mp found
    exact visible l (List.mem_of_find?_eq_some first)
  operator _ _ _ _ operands each V visible := Node.allScopedIn_iff.mpr fun n member =>
    (each n member).elim fun _ scopedIn => scopedIn V visible
  function _ _ _ _ arguments _ each V visible := Node.allScopedIn_iff.mpr fun n member =>
    (each n member).elim fun _ scopedIn => scopedIn V visible
  lambda lambdas path token parameters scope body invocation inside inBody inArguments := by
    intro V visible
    have own : scope.id = path := inside ▸ Scope.id_inside
    have bodyScoped : body.ScopedIn fun id => id = scope.id ∨ V id := by
      refine inBody _ (List.forall_mem_cons.mpr ⟨?_, fun l member => ?_⟩)
      · rw [own, inside]
        exact Scope.within_inside visible
      · exact (visible l member).mono fun _ => .inr
    match invocation with
    | none => exact bodyScoped
    | some arguments =>
      refine ⟨Node.allScopedIn_iff.mpr fun n member => ?_, bodyScoped⟩
      obtain ⟨-, scopedIn⟩ := inArguments arguments rfl n member
      exact scopedIn V visible

/-- Any two environments are related before the evaluation of a built tree. -/
theorem Environment.related_of_none {R : Operand → Operand → Prop} {env env' : Environment} :
    Environment.Related R (fun _ => False) env env' :=
  fun _ visible => visible.elim

end Spreadsheet
