import Mathlib.Logic.Relation
import Spreadsheet.Proofs.CapitalForms
import Spreadsheet.Proofs.Environment

/-!
# Where parameters lead

A parameter may be bound to another one, that to a third, and so on, through scopes nested in any
way and possibly in a circle. `ScopeGraph.Leads` tells where following these links ends and after
how many of them. `Environment.resolve` finds exactly the operands within its bound
(`ScopeGraph.resolve_eq_ok_iff`): a parameter met for the second time leads nowhere, so that
stopping there loses nothing (`ScopeGraph.not_leads_of_cycle`).
-/

namespace Spreadsheet

/-! ## Bindings of names -/

/-- The binding of a name in the nearest scope that has one, from a scope outward. -/
def Environment.Nearest (env : Environment) (s : Scope) (name : String) (β : Binding) : Prop :=
  ∃ inner id farther, s.id :: s.outer = inner ++ id :: farther ∧
    (∀ other ∈ inner, (env.frame other).lookup (upperText name) = none) ∧
    (env.frame id).lookup (upperText name) = some β

/-- Scopes with their bindings. What is around a scope is fixed by its identity, so every link to
a scope agrees on it. -/
structure ScopeGraph where
  /-- The scopes around each scope, from the inside outward. -/
  around : ScopeId → List ScopeId
  env : Environment
  linked : ∀ id key next scope,
    (env.frame id).lookup key = some (.parameter next scope) → scope.outer = around scope.id

def ScopeGraph.scope (g : ScopeGraph) (id : ScopeId) : Scope :=
  ⟨id, g.around id⟩

/-- Following links from a name of a scope leads to an operand, after a number of links. -/
inductive ScopeGraph.Leads (g : ScopeGraph) : ScopeId → String → Nat → Operand → Prop
  | operand {id : ScopeId} {name : String} {x : Operand}
      (nearest : g.env.Nearest (g.scope id) name (.operand x)) : g.Leads id name 0 x
  | link {id : ScopeId} {name next : String} {scope : Scope} {n : Nat} {x : Operand}
      (nearest : g.env.Nearest (g.scope id) name (.parameter next scope))
      (onward : g.Leads scope.id next n x) : g.Leads id name (n + 1) x

section Bindings

variable {env : Environment} {s : Scope} {name : String} {β γ : Binding}

theorem Environment.find?_eq_some_iff : env.find? s name = some β ↔ env.Nearest s name β := by
  rw [find?, List.findSome?_eq_some_iff]
  constructor
  · intro ⟨inner, id, farther, chain, bound, unbound⟩
    exact ⟨inner, id, farther, chain, unbound, bound⟩
  · intro ⟨inner, id, farther, chain, unbound, bound⟩
    exact ⟨inner, id, farther, chain, bound, unbound⟩

/-- The bindings of a name are those of its capital form. -/
theorem Environment.find?_upperText : env.find? s (upperText name) = env.find? s name := by
  rw [find?, find?, upperText_upperText]

theorem Environment.Nearest.unique (left : env.Nearest s name β) (right : env.Nearest s name γ) :
    β = γ :=
  Option.some.inj ((find?_eq_some_iff.mpr left).symm.trans (find?_eq_some_iff.mpr right))

theorem Environment.nearest_upperText :
    env.Nearest s (upperText name) β ↔ env.Nearest s name β := by
  rw [← find?_eq_some_iff, ← find?_eq_some_iff, find?_upperText]

end Bindings

/-! ## Following links -/

namespace ScopeGraph

variable {g : ScopeGraph} {id : ScopeId} {name next : String} {scope : Scope}

/-- A link is to a scope of the graph. -/
theorem scope_of_nearest (nearest : g.env.Nearest (g.scope id) name (.parameter next scope)) :
    g.scope scope.id = scope := by
  obtain ⟨_, holder, _, _, _, bound⟩ := nearest
  rw [ScopeGraph.scope, ← g.linked holder _ next scope bound]

theorem leads_upperText {n : Nat} {x : Operand} :
    g.Leads id (upperText name) n x ↔ g.Leads id name n x := by
  constructor
  · intro leads
    cases leads with
    | operand nearest => exact .operand (Environment.nearest_upperText.mp nearest)
    | link nearest onward => exact .link (Environment.nearest_upperText.mp nearest) onward
  · intro leads
    cases leads with
    | operand nearest => exact .operand (Environment.nearest_upperText.mpr nearest)
    | link nearest onward => exact .link (Environment.nearest_upperText.mpr nearest) onward

/-- Links lead to one operand, after one number of them. -/
theorem Leads.unique {n m : Nat} {x y : Operand} (left : g.Leads id name n x)
    (right : g.Leads id name m y) : n = m ∧ x = y := by
  induction left generalizing m with
  | operand nearest =>
    cases right with
    | operand other =>
      cases nearest.unique other
      exact ⟨rfl, rfl⟩
    | link other _ => cases nearest.unique other
  | link nearest _ ih =>
    cases right with
    | operand other => cases nearest.unique other
    | link other onward =>
      cases nearest.unique other
      obtain ⟨same, operand⟩ := ih onward
      exact ⟨congrArg Nat.succ same, operand⟩

/-- One name of a scope, in capital form, is bound to the next one. -/
def Follows (g : ScopeGraph) (v w : ScopeId × String) : Prop :=
  ∃ next scope, g.env.Nearest (g.scope v.1) v.2 (.parameter next scope) ∧
    w = (scope.id, upperText next)

section Cycles

variable {v w : ScopeId × String} {n : Nat} {x : Operand}

/-- What a name leads to, all names that it leads through lead to after fewer links. -/
theorem Leads.shorter (later : Relation.TransGen g.Follows v w) (leads : g.Leads v.1 v.2 n x) :
    ∃ m < n, g.Leads w.1 w.2 m x := by
  have step : ∀ {v w n}, g.Follows v w → g.Leads v.1 v.2 n x → ∃ m < n, g.Leads w.1 w.2 m x := by
    intro v w n follows leads
    obtain ⟨next, scope, nearest, rfl⟩ := follows
    cases leads with
    | operand other => cases nearest.unique other
    | link other onward =>
      cases nearest.unique other
      exact ⟨_, Nat.lt_succ_self _, leads_upperText.mpr onward⟩
  induction later with
  | single follows => exact step follows leads
  | tail _ follows ih =>
    obtain ⟨m, fewer, middle⟩ := ih
    obtain ⟨k, fewest, onward⟩ := step follows middle
    exact ⟨k, Nat.lt_trans fewest fewer, onward⟩

/-- A name that leads through itself leads to no operand. -/
theorem not_leads_of_cycle (cycle : Relation.TransGen g.Follows v v) : ¬ g.Leads v.1 v.2 n x := by
  intro leads
  obtain ⟨m, fewer, again⟩ := leads.shorter cycle
  exact Nat.ne_of_lt fewer (again.unique leads).1

end Cycles

/-! ## The search -/

section Search

open Environment (resolve resolve.go)

variable {maxDepth steps n : Nat} {visited : List (ScopeId × String)} {x : Operand}

/-- An operand that the search finds is where the links lead. -/
theorem leads_of_go (found : resolve.go g.env maxDepth steps visited (g.scope id) name = .ok x) :
    ∃ n < steps, g.Leads id name n x := by
  induction steps generalizing visited id name with
  | zero => cases found
  | succ steps ih =>
    unfold resolve.go at found
    split at found
    · cases found
    · split at found
      · rename_i bound
        cases found
        exact ⟨0, Nat.succ_pos steps, .operand (Environment.find?_eq_some_iff.mp bound)⟩
      · rename_i next scope bound
        have nearest := Environment.find?_eq_some_iff.mp bound
        rw [← scope_of_nearest nearest] at found
        obtain ⟨n, within, onward⟩ := ih found
        exact ⟨n + 1, Nat.succ_lt_succ within, .link nearest (leads_upperText.mp onward)⟩
      · cases found

/-- A name that leads to an operand has not been met before. -/
theorem not_mem_of_leads (leads : g.Leads id name n x)
    (before : ∀ v ∈ visited, Relation.TransGen g.Follows v (id, upperText name)) :
    ((g.scope id).id, upperText name) ∉ visited :=
  fun again => not_leads_of_cycle (before _ again) (leads_upperText.mpr leads)

/-- The search follows the links to an operand as far as it may. -/
theorem go_of_leads (leads : g.Leads id name n x)
    (before : ∀ v ∈ visited, Relation.TransGen g.Follows v (id, upperText name)) :
    resolve.go g.env maxDepth steps visited (g.scope id) (upperText name) =
      if n < steps then .ok x else .error (.deepParameter maxDepth) := by
  induction leads generalizing steps visited with
  | @operand id name x nearest =>
    have fresh := not_mem_of_leads (.operand nearest) before
    cases steps with
    | zero => rfl
    | succ steps =>
      rw [resolve.go, if_neg fresh, Environment.find?_upperText,
        Environment.find?_eq_some_iff.mpr nearest, if_pos (Nat.succ_pos steps)]
  | @link id name next scope n x nearest onward ih =>
    have fresh := not_mem_of_leads (.link nearest onward) before
    have here : g.Follows (id, upperText name) (scope.id, upperText next) :=
      ⟨next, scope, Environment.nearest_upperText.mpr nearest, rfl⟩
    cases steps with
    | zero => rfl
    | succ steps =>
      have after : ∀ v ∈ (id, upperText name) :: visited,
          Relation.TransGen g.Follows v (scope.id, upperText next) := by
        intro v member
        cases List.mem_cons.mp member with
        | inl last => exact last ▸ .single here
        | inr earlier => exact (before v earlier).tail here
      have rest : resolve.go g.env maxDepth steps ((id, upperText name) :: visited)
          (g.scope scope.id) (upperText next) = _ := ih after
      rw [scope_of_nearest nearest] at rest
      rw [resolve.go, if_neg fresh, Environment.find?_upperText,
        Environment.find?_eq_some_iff.mpr nearest]
      simp only [Nat.succ_lt_succ_iff]
      exact rest

/-- A search that finds no operand ends in a `#SPILL!` error. -/
theorem kind_of_go {e : FormulaError} {s : Scope}
    (failed : resolve.go g.env maxDepth steps visited s name = .error e) : e.kind = .spill := by
  induction steps generalizing visited s name with
  | zero =>
    cases failed
    rfl
  | succ steps ih =>
    unfold resolve.go at failed
    split at failed
    · cases failed
      rfl
    · split at failed
      · cases failed
      · exact ih failed
      · cases failed
        rfl

/-- A parameter that leads to an operand is that operand, or too deep for the bound. -/
theorem resolve_of_leads (leads : g.Leads id name n x) :
    resolve g.env maxDepth (g.scope id) name =
      if n ≤ maxDepth then .ok x else .error (.deepParameter maxDepth) := by
  unfold resolve
  have search : resolve.go g.env maxDepth (maxDepth + 1) [] (g.scope id) (upperText name) = _ :=
    go_of_leads leads fun v member => absurd member List.not_mem_nil
  simpa only [Nat.lt_succ_iff] using search

theorem resolve_eq_ok_iff :
    resolve g.env maxDepth (g.scope id) name = .ok x ↔ ∃ n ≤ maxDepth, g.Leads id name n x := by
  constructor
  · intro found
    obtain ⟨n, within, leads⟩ := leads_of_go found
    exact ⟨n, Nat.le_of_lt_succ within, leads_upperText.mp leads⟩
  · intro ⟨n, within, leads⟩
    rw [resolve_of_leads leads, if_pos within]

end Search

/-! ## Every scope graph -/

/-- Scopes without bindings. -/
def empty (around : ScopeId → List ScopeId) : ScopeGraph where
  around := around
  env := {}
  linked _ _ _ _ bound := nomatch bound

/-- What a name is bound to: an operand, or a name of a scope. -/
def binding (g : ScopeGraph) : Operand ⊕ String × ScopeId → Binding
  | .inl x => .operand x
  | .inr (next, id) => .parameter next (g.scope id)

/-- The graph with a name of a scope bound, whatever it was bound to. -/
def bind (g : ScopeGraph) (id : ScopeId) (name : String) (target : Operand ⊕ String × ScopeId) :
    ScopeGraph where
  around := g.around
  env := g.env.bind (g.scope id) name (g.binding target)
  linked holder key next scope bound := by
    by_cases here : holder = (g.scope id).id
    · rw [here, Environment.lookup_bind] at bound
      split at bound
      · cases target with
        | inl x => cases bound
        | inr link =>
          cases bound
          rfl
      · exact g.linked _ key next scope bound
    · rw [Environment.frame_bind_of_ne here] at bound
      exact g.linked holder key next scope bound

/-- A parameter met again is another error than one with too many links. -/
theorem cyclicBinding_ne_deepParameter {key : String} {maxDepth : Nat} :
    FormulaError.cyclicBinding key ≠ .deepParameter maxDepth := by
  intro same
  have messages : "Cyclic binding for " ++ key = "Parameter chain deeper than " ++ toString maxDepth :=
    Option.some.inj (congrArg FormulaError.message same)
  have first := congrArg (fun text => text.toList.head?) messages
  rw [String.toList_append, String.toList_append] at first
  cases first

/-- Resolving a parameter gives the operand that its links lead to, when at most `maxDepth` of them
do, and a `#SPILL!` error otherwise. It reports a cycle only where no operand is, and a greater
bound changes no operand. -/
theorem resolve_correct (g : ScopeGraph) (id : ScopeId) (name : String) (maxDepth : Nat) :
    let result := fun depth => g.env.resolve depth (g.scope id) name
    (∀ x, result maxDepth = .ok x ↔ ∃ n ≤ maxDepth, g.Leads id name n x) ∧
    ((∀ x, ∀ n ≤ maxDepth, ¬ g.Leads id name n x) →
      ∃ e, result maxDepth = .error e ∧ e.kind = .spill) ∧
    (∀ n x, g.Leads id name n x → ∀ key, result maxDepth ≠ .error (.cyclicBinding key)) ∧
    ∀ deeper x, maxDepth ≤ deeper → result maxDepth = .ok x → result deeper = .ok x := by
  intro result
  refine ⟨fun x => resolve_eq_ok_iff, fun nowhere => ?_, fun n x leads key cyclic => ?_,
    fun deeper x more found => ?_⟩
  · cases outcome : result maxDepth with
    | ok x =>
      obtain ⟨n, within, leads⟩ := resolve_eq_ok_iff.mp outcome
      exact absurd leads (nowhere x n within)
    | error e => exact ⟨e, rfl, kind_of_go outcome⟩
  · have search : result maxDepth = _ := resolve_of_leads leads
    rw [cyclic] at search
    split at search
    · cases search
    · exact cyclicBinding_ne_deepParameter (Except.error.inj search)
  · obtain ⟨n, within, leads⟩ := resolve_eq_ok_iff.mp found
    exact resolve_eq_ok_iff.mpr ⟨n, Nat.le_trans within more, leads⟩

/-- The scope `[1, 0]` inside the scope `[0]`, whose `a` its own `b` links to, and whose `c` links
to itself. -/
def pair : ScopeGraph :=
  (((empty fun id => id.tail.map fun n => [n]).bind [0] "a" (.inl (.value (.bool true)))).bind
    [1, 0] "b" (.inr ("A", [0]))).bind [0] "c" (.inr ("C", [0]))

/-- A link to an operand, and one in a circle. -/
theorem resolve_correct_pair :
    let x : Operand := .value (.bool true)
    (pair.Leads [1, 0] "B" 1 x ∧ pair.env.resolve 1 (pair.scope [1, 0]) "B" = .ok x ∧
      pair.env.resolve 9 (pair.scope [1, 0]) "B" = .ok x ∧
      ∀ key, pair.env.resolve 0 (pair.scope [1, 0]) "B" ≠ .error (.cyclicBinding key)) ∧
    (∀ y, ∀ n ≤ 9, ¬ pair.Leads [0] "c" n y) ∧
      ∃ e, pair.env.resolve 9 (pair.scope [0]) "c" = .error e ∧ e.kind = .spill := by
  intro x
  have bound : pair.env.Nearest (pair.scope [0]) "A" (.operand x) :=
    Environment.find?_eq_some_iff.mp rfl
  have linked : pair.env.Nearest (pair.scope [1, 0]) "B" (.parameter "A" (pair.scope [0])) :=
    Environment.find?_eq_some_iff.mp rfl
  have itself : pair.env.Nearest (pair.scope [0]) "C" (.parameter "C" (pair.scope [0])) :=
    Environment.find?_eq_some_iff.mp rfl
  have leads : pair.Leads [1, 0] "B" 1 x := .link linked (.operand bound)
  have capitals : upperText "c" = "C" ∧ upperText "C" = "C" := by decide +kernel
  have circle : Relation.TransGen pair.Follows ([0], "C") ([0], "C") :=
    .single ⟨"C", pair.scope [0], itself, by rw [capitals.2]; rfl⟩
  have nowhere : ∀ y n, ¬ pair.Leads [0] "c" n y := fun y n stray =>
    not_leads_of_cycle circle (capitals.1 ▸ leads_upperText.mpr stray)
  obtain ⟨found, -, -, deeper⟩ := resolve_correct pair [1, 0] "B" 1
  have within := (found x).mpr ⟨1, Nat.le_refl 1, leads⟩
  exact ⟨⟨leads, within, deeper 9 x (by decide) within,
    (resolve_correct pair [1, 0] "B" 0).2.2.1 1 x leads⟩,
    fun y n _ => nowhere y n,
    (resolve_correct pair [0] "c" 9).2.1 fun y n _ => nowhere y n⟩

end ScopeGraph

end Spreadsheet
