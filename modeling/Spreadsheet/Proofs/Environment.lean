import Mathlib.Data.List.Forall2
import Spreadsheet.Proofs.Evaluation

/-!
# Bindings of scopes

What the bindings of a scope are after the arguments of an invocation have been bound
(`Environment.lookup_bindArguments`), and which scopes an evaluation leaves alone
(`Node.frame_evaluate`): all those that no lambda in the tree binds.
-/

namespace Spreadsheet

/-! ## Bindings of one scope -/

/-- Leaving out the entries of one key leaves those of another one. -/
theorem lookup_filter_ne {α β : Type} [BEq α] [LawfulBEq α] [DecidableEq α]
    {entries : List (α × β)} {key other : α} (different : other ≠ key) :
    (entries.filter fun entry => entry.1 ≠ key).lookup other = entries.lookup other := by
  induction entries with
  | nil => rfl
  | cons entry rest ih =>
    rcases entry with ⟨k, x⟩
    by_cases dropped : k = key
    · have missed : (other == k) = false := beq_eq_false_iff_ne.mpr (dropped ▸ different)
      rw [List.filter_cons_of_neg (by simpa using dropped), ih, List.lookup_cons, missed]
    · rw [List.filter_cons_of_pos (by simpa using dropped), List.lookup_cons, List.lookup_cons, ih]

/-- Related elements stay related when both lists get the same keys. -/
theorem forall₂_zip_keys {α β γ : Type} {R : β → γ → Prop} {keys : List α} {xs : List β}
    {ys : List γ} (related : List.Forall₂ R xs ys) :
    List.Forall₂ (fun entry entry' => entry.1 = entry'.1 ∧ R entry.2 entry'.2)
      (keys.zip xs) (keys.zip ys) := by
  induction related generalizing keys with
  | nil =>
    rw [List.zip_nil_right, List.zip_nil_right]
    exact .nil
  | cons first others ih =>
    cases keys with
    | nil => exact .nil
    | cons key keys => exact .cons ⟨rfl, first⟩ ih

section Frames

variable {env : Environment} {id other : ScopeId} {scope : Scope}

/-- The bindings of a scope after they have been replaced. -/
theorem Environment.frame_setFrame {frame : List (String × Binding)} :
    (env.setFrame id frame).frame other = if other = id then frame else env.frame other := by
  simp only [Environment.frame, setFrame, List.lookup_cons]
  by_cases same : other = id
  · simp only [same, beq_self_eq_true, if_true, Option.getD_some]
  · rw [if_neg same, lookup_filter_ne same, beq_eq_false_iff_ne.mpr same]

theorem Environment.frame_clear :
    (env.clear scope).frame other = if other = scope.id then [] else env.frame other :=
  frame_setFrame

theorem Environment.frame_bind_of_ne {name : String} {binding : Binding} (ne : other ≠ scope.id) :
    (env.bind scope name binding).frame other = env.frame other := by
  rw [bind, frame_setFrame, if_neg ne]

/-- The binding of a key after a name has been bound. -/
theorem Environment.lookup_bind {name key : String} {binding : Binding} :
    ((env.bind scope name binding).frame scope.id).lookup key =
      if upperText name = key then some binding else (env.frame scope.id).lookup key := by
  rw [bind, frame_setFrame, if_pos rfl, List.lookup_cons]
  by_cases same : upperText name = key
  · rw [if_pos same, same, beq_self_eq_true]
  · rw [if_neg same, lookup_filter_ne (Ne.symm same), beq_eq_false_iff_ne.mpr (Ne.symm same)]

end Frames

section Arguments

variable {env : Environment} {scope : Scope} {parameters : List String} {arguments : List Node}

/-- Binding arguments one after another, the last one being outermost. -/
theorem Environment.bindArguments_eq_foldr :
    env.bindArguments scope parameters arguments =
      (parameters.zip arguments).reverse.foldr
        (fun entry env => env.bind scope entry.1 entry.2.binding) (env.clear scope) := by
  rw [bindArguments, List.foldr_reverse]

/-- Binding arguments leaves other scopes alone. -/
theorem Environment.frame_bindArguments_of_ne {other : ScopeId} (ne : other ≠ scope.id) :
    (env.bindArguments scope parameters arguments).frame other = env.frame other := by
  rw [bindArguments_eq_foldr]
  generalize (parameters.zip arguments).reverse = entries
  induction entries with
  | nil => rw [List.foldr_nil, frame_clear, if_neg ne]
  | cons entry rest ih => rw [List.foldr_cons, frame_bind_of_ne ne, ih]

/-- The binding of a key is that of the last parameter with this key and an argument. -/
theorem Environment.lookup_bindArguments {key : String} :
    ((env.bindArguments scope parameters arguments).frame scope.id).lookup key =
      ((parameters.zip arguments).reverse.find? fun entry => upperText entry.1 == key).map
        fun entry => entry.2.binding := by
  rw [bindArguments_eq_foldr]
  generalize (parameters.zip arguments).reverse = entries
  induction entries with
  | nil => rw [List.foldr_nil, frame_clear, if_pos rfl, List.lookup_nil, List.find?_nil,
      Option.map_none]
  | cons entry rest ih =>
    rw [List.foldr_cons, lookup_bind, List.find?_cons, ih]
    by_cases same : upperText entry.1 = key
    · simp only [same, if_true, beq_self_eq_true, Option.map_some]
    · simp only [same, if_false, beq_eq_false_iff_ne.mpr same]

end Arguments

/-! ## Scopes that an evaluation leaves alone -/

/-- The scope that a node itself binds. -/
def Node.scope? : Node → Option Scope
  | .lambda _ _ scope _ _ _ => some scope
  | _ => none

/-- The scopes that lambdas anywhere in the tree bind. -/
def Node.scopes (n : Node) : List Scope :=
  n.nodes.filterMap Node.scope?

/-- The scopes that lambdas anywhere in several trees bind. -/
def Node.scopesOfAll (nodes : List Node) : List Scope :=
  (Node.nodesOfAll nodes).filterMap Node.scope?

theorem Node.mem_scopes_lambda {token : String} {parameters : List String} {scope : Scope}
    {body : Node} {arguments : List Node} {kept : Option Operand} {bound : Scope} :
    bound ∈ (Node.lambda token parameters scope body (some arguments) kept).scopes ↔
      bound = scope ∨ bound ∈ Node.scopesOfAll arguments ∨ bound ∈ body.scopes := by
  simp only [scopes, scopesOfAll, nodes, List.filterMap_cons, scope?, List.filterMap_append,
    List.mem_cons, List.mem_append]

theorem Node.mem_scopesOfAll_cons {n : Node} {rest : List Node} {bound : Scope} :
    bound ∈ Node.scopesOfAll (n :: rest) ↔ bound ∈ n.scopes ∨ bound ∈ Node.scopesOfAll rest := by
  simp only [scopes, scopesOfAll, nodesOfAll, List.filterMap_append, List.mem_append]

section Evaluation

variable {s : Surroundings} {awaits : Function → Bool} {id : ScopeId}

mutual

/-- An evaluation leaves alone the scopes that no lambda in the tree binds. -/
theorem Node.frame_evaluate (env : Environment) (n : Node)
    (other : ∀ scope ∈ n.scopes, id ≠ scope.id) :
    (n.evaluate s awaits env).2.frame id = env.frame id := by
  match n with
  | .literal .. | .failure .. | .reference .. | .parameter .. | .lambda _ _ _ _ none _ =>
    simp only [evaluate]
  | .operator token op operands _ =>
    simp only [evaluate, frame_evaluateAll env operands other]
  | .function token f arguments _ =>
    simp only [evaluate, frame_evaluateAll env arguments other]
  | .lambda token parameters scope body (some arguments) _ =>
    have inArguments := frame_evaluateAll env arguments fun bound member =>
      other bound (mem_scopes_lambda.mpr (.inr (.inl member)))
    simp only [evaluate]
    split
    · exact inArguments
    · have here : id ≠ scope.id := other scope (mem_scopes_lambda.mpr (.inl rfl))
      rw [frame_evaluate _ body fun bound member =>
        other bound (mem_scopes_lambda.mpr (.inr (.inr member))),
        Environment.frame_bindArguments_of_ne here, inArguments]

theorem Node.frame_evaluateAll (env : Environment) (nodes : List Node)
    (other : ∀ scope ∈ Node.scopesOfAll nodes, id ≠ scope.id) :
    (Node.evaluateAll s awaits env nodes).2.frame id = env.frame id := by
  match nodes with
  | [] => rfl
  | n :: rest =>
    simp only [evaluateAll]
    rw [frame_evaluateAll _ rest fun bound member =>
      other bound (mem_scopesOfAll_cons.mpr (.inr member)),
      frame_evaluate env n fun bound member =>
      other bound (mem_scopesOfAll_cons.mpr (.inl member))]

end

end Evaluation

end Spreadsheet
