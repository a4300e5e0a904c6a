import Spreadsheet.Proofs.PostOrder
import Spreadsheet.Proofs.Reevaluation

/-!
# The order of calls

An evaluation calls the function of every function node that it visits, in post-order and once each,
whatever the parameters that are bound to the results are used for. The arguments are the results
that the same evaluation has left in the children of the node (`Session.calls_evaluate`).

The calls are read off the evaluated tree, visit by visit (`Node.callsMade_eq`). That they are the
ones to expect follows from two facts about evaluated trees: every node that is reached in one is an
evaluated node itself (`Node.IsEvaluated.of_reaches`), and evaluation does not change which nodes
are reached (`Node.Reaches.exists_of_unevaluated`).

Every node holds a function of its own and calls it once. So a function whose results depend on
earlier calls is no exception: it acts as one that has the result of its only call for all arguments.
-/

namespace Spreadsheet

/-! ## Calls and their places -/

/-- The call that is made for an evaluated node itself. -/
def Node.call? (awaits : Function → Bool) : Node → Option Call
  | .function _ f arguments _ => some ⟨f, arguments.map Node.operand, awaits f⟩
  | _ => none

/-- The calls that are made for an evaluated tree, with the places of the nodes that make them. -/
def Node.callsAt (awaits : Function → Bool) (n : Node) : List (Place × Call) :=
  n.visits.filterMap fun v => (v.node.call? awaits).map (v.place, ·)

section Calls

variable {awaits : Function → Bool}

/-- The calls for a node are those for its children, those for the body that it applies, and its
own. -/
theorem Node.callsMade_eq_append (n : Node) :
    n.callsMade awaits = Node.callsMadeByAll awaits n.children ++
      n.appliedBody?.toList.flatMap (Node.callsMade awaits) ++ (n.call? awaits).toList := by
  cases n with
  | literal | failure | reference | parameter =>
    simp only [callsMade]
    rfl
  | operator | function =>
    simp only [callsMade, children, appliedBody?, call?, Option.toList_none, Option.toList_some,
      List.flatMap_nil, List.append_nil]
  | lambda _ _ _ _ invocation =>
    cases invocation with
    | none =>
      simp only [callsMade]
      rfl
    | some arguments =>
      simp only [callsMade, children, appliedBody?, call?, Option.toList_none, List.append_nil]
      split
      · rfl
      · rw [Option.toList_some, List.flatMap_singleton]

theorem Node.callsMadeByAll_eq_flatMap {below : List Node} :
    Node.callsMadeByAll awaits below = below.flatMap (Node.callsMade awaits) := by
  induction below with
  | nil => rfl
  | cons first rest ih => rw [callsMadeByAll, ih, List.flatMap_cons]

/-- The calls are made for one visited node after another. -/
theorem Node.callsMade_eq_filterMap (n : Node) :
    n.callsMade awaits = n.visited.filterMap (Node.call? awaits) := by
  induction n using visitInduction with
  | step n ofChildren ofBody =>
    have own : (n.call? awaits).toList = [n].filterMap (Node.call? awaits) := by
      cases call : n.call? awaits with
      | none => rw [List.filterMap_cons_none call, List.filterMap_nil, Option.toList_none]
      | some c => rw [List.filterMap_cons_some call, List.filterMap_nil, Option.toList_some]
    have body : ∀ m ∈ n.appliedBody?.toList,
        m.callsMade awaits = m.visited.filterMap (Node.call? awaits) :=
      fun m member => ofBody m (Option.mem_toList.mp member)
    rw [callsMade_eq_append, callsMadeByAll_eq_flatMap, visited_eq, List.filterMap_append,
      List.filterMap_append, List.filterMap_flatMap, List.filterMap_flatMap, own,
      List.flatMap_congr ofChildren, List.flatMap_congr body]

/-- The calls of a tree are those at its places. -/
theorem Node.callsMade_eq (n : Node) : n.callsMade awaits = (n.callsAt awaits).map Prod.snd := by
  rw [callsMade_eq_filterMap, visited, List.filterMap_map, callsAt, List.map_filterMap]
  congr 1
  funext v
  rw [Option.map_map]
  exact Option.map_id'.symm

theorem Node.exists_call? {n : Node} (function : n.function?.isSome) :
    ∃ c, n.call? awaits = some c := by
  cases n with
  | function => exact ⟨_, rfl⟩
  | literal | failure | operator | reference | parameter | lambda => cases function

theorem Node.mem_callsAt {n : Node} {p : Place} {c : Call} :
    (p, c) ∈ n.callsAt awaits ↔ ∃ m, n.Reaches p m ∧ m.call? awaits = some c := by
  simp only [callsAt, List.mem_filterMap, Option.map_eq_some_iff, Prod.mk.injEq]
  constructor
  · rintro ⟨v, visited, c, call, rfl, rfl⟩
    exact ⟨v.node, mem_visits.mp visited, call⟩
  · rintro ⟨m, reached, call⟩
    exact ⟨⟨p, m⟩, mem_visits.mpr reached, c, call, rfl, rfl⟩

/-- The calls are made in the post-order of their places. -/
theorem Node.pairwise_callsAt (n : Node) :
    ((n.callsAt awaits).map Prod.fst).Pairwise Place.Precedes := by
  rw [List.pairwise_map, callsAt, List.pairwise_filterMap]
  refine n.inPostOrder_visits.imp fun {v w} precedes => ?_
  rintro ⟨p, c⟩ atV ⟨q, d⟩ atW
  obtain ⟨_, -, ⟨⟩⟩ := Option.map_eq_some_iff.mp atV
  obtain ⟨_, -, ⟨⟩⟩ := Option.map_eq_some_iff.mp atW
  exact precedes

end Calls

/-! ## Evaluated trees -/

/-- Whether a call is the one that an evaluation has made for a function node: with the results of
the children as arguments, and with the result that the node has. -/
structure Node.Made (awaits : Function → Bool) (n : Node) (c : Call) : Prop where
  function : n.function? = some c.function
  arguments : n.children.map Node.result? = c.arguments.map some
  awaited : c.awaited = awaits c.function
  result : n.result? = some c.result

/-- Whether a node is what an evaluation has made of some node. -/
def Node.IsEvaluated (s : Surroundings) (awaits : Function → Bool) (m : Node) : Prop :=
  ∃ (n : Node) (env : Environment), (n.evaluate s awaits env).1 = m

section Evaluated

variable {s : Surroundings} {awaits : Function → Bool} {m : Node}

/-- A node that has been evaluated has a result. -/
theorem Node.IsEvaluated.result? (evaluated : m.IsEvaluated s awaits) :
    m.result? = some m.operand := by
  obtain ⟨n, env, rfl⟩ := evaluated
  cases n with
  | literal | failure | reference | parameter | operator | function => rfl
  | lambda _ _ _ _ invocation =>
    cases invocation with
    | none => rfl
    | some arguments =>
      simp only [evaluate]
      split <;> rfl

theorem Node.isEvaluated_of_mem {env : Environment} {nodes : List Node}
    (member : m ∈ (Node.evaluateAll s awaits env nodes).1) : m.IsEvaluated s awaits := by
  obtain ⟨n, -, env', same⟩ := exists_evaluate_of_mem member
  exact ⟨n, env', same⟩

/-- The children of an evaluated node have been evaluated. -/
theorem Node.IsEvaluated.of_mem_children {n : Node} (evaluated : n.IsEvaluated s awaits)
    (member : m ∈ n.children) : m.IsEvaluated s awaits := by
  obtain ⟨n, env, rfl⟩ := evaluated
  match n with
  | .literal .. | .failure .. | .reference .. | .parameter .. | .lambda _ _ _ _ none _ =>
    cases member
  | .operator .. | .function .. => exact isEvaluated_of_mem member
  | .lambda _ _ _ _ (some _) _ =>
    simp only [evaluate] at member
    split at member <;> exact isEvaluated_of_mem member

/-- The body that an evaluated node applies has been evaluated. -/
theorem Node.IsEvaluated.of_appliedBody? {n : Node} (evaluated : n.IsEvaluated s awaits)
    (applied : n.appliedBody? = some m) : m.IsEvaluated s awaits := by
  obtain ⟨n, env, rfl⟩ := evaluated
  match n with
  | .literal .. | .failure .. | .reference .. | .parameter .. | .operator .. | .function ..
  | .lambda _ _ _ _ none _ => cases applied
  | .lambda _ parameters _ body (some arguments) _ =>
    simp only [evaluate] at applied
    split at applied
    · rename_i tooMany
      simp only [appliedBody?, if_pos tooMany] at applied
      cases applied
    · rename_i enough
      simp only [appliedBody?, if_neg enough] at applied
      cases applied
      exact ⟨body, _, rfl⟩

/-- Every node that is reached in an evaluated tree has been evaluated. -/
theorem Node.IsEvaluated.of_reaches {n : Node} {p : Place} (evaluated : n.IsEvaluated s awaits)
    (reached : n.Reaches p m) : m.IsEvaluated s awaits := by
  induction reached with
  | root => exact evaluated
  | step enters _ ih =>
    cases enters with
    | child child => exact ih (evaluated.of_mem_children (List.mem_of_getElem? child))
    | body applied => exact ih (evaluated.of_appliedBody? applied)

/-- The call of an evaluated node has been made by its evaluation. -/
theorem Node.IsEvaluated.made (evaluated : m.IsEvaluated s awaits) {c : Call}
    (call : m.call? awaits = some c) : m.Made awaits c := by
  have children : m.children.map Node.result? = (m.children.map Node.operand).map some := by
    rw [List.map_map]
    exact List.map_congr_left fun n member => (evaluated.of_mem_children member).result?
  obtain ⟨n, env, rfl⟩ := evaluated
  match n with
  | .literal .. | .failure .. | .reference .. | .parameter .. | .operator ..
  | .lambda _ _ _ _ none _ => cases call
  | .lambda _ _ _ _ (some _) _ =>
    simp only [evaluate] at call
    split at call <;> cases call
  | .function .. =>
    cases call
    exact ⟨rfl, children, rfl, rfl⟩

end Evaluated

/-! ## Trees that differ in results only -/

section Unevaluated

variable {n n' m : Node}

theorem Node.children_unevaluated : n.unevaluated.children = n.children.map Node.unevaluated := by
  have all : ∀ nodes, Node.unevaluatedAll nodes = nodes.map Node.unevaluated := by
    intro nodes
    induction nodes with
    | nil => rfl
    | cons n rest ih => rw [unevaluatedAll, ih, List.map_cons]
  cases n with
  | literal | failure | reference | parameter => rfl
  | operator | function => exact all _
  | lambda _ _ _ _ invocation =>
    cases invocation with
    | none => rfl
    | some arguments => exact all arguments

theorem Node.appliedBody?_unevaluated :
    n.unevaluated.appliedBody? = n.appliedBody?.map Node.unevaluated := by
  cases n with
  | literal | failure | reference | parameter | operator | function => rfl
  | lambda _ _ _ _ invocation =>
    cases invocation with
    | none => rfl
    | some arguments =>
      simp only [unevaluated, appliedBody?, length_unevaluatedAll]
      split <;> rfl

/-- Trees that differ in results only call the same function. -/
theorem Node.function?_eq_of_unevaluated (same : n.unevaluated = n'.unevaluated) :
    n.function? = n'.function? := by
  have own : ∀ n : Node, n.unevaluated.function? = n.function? := by
    intro n
    cases n with
    | literal | failure | reference | parameter | operator | function => rfl
    | lambda _ _ _ _ invocation => cases invocation <;> rfl
  rw [← own, same, own]

/-- Which nodes are reached does not depend on results. -/
theorem Node.Reaches.exists_of_unevaluated {p : Place} (reached : n.Reaches p m)
    (same : n.unevaluated = n'.unevaluated) :
    ∃ m', n'.Reaches p m' ∧ m.unevaluated = m'.unevaluated := by
  induction reached generalizing n' with
  | root => exact ⟨n', .root, same⟩
  | @step n k m b p enters _ ih =>
    obtain ⟨k', enters', below⟩ : ∃ k', n'.Enters b k' ∧ k.unevaluated = k'.unevaluated := by
      cases enters with
      | @child _ i child =>
        have children := congrArg (fun n => n.children[i]?) same
        simp only [children_unevaluated, List.getElem?_map, child, Option.map_some] at children
        obtain ⟨k', child', below⟩ := Option.map_eq_some_iff.mp children.symm
        exact ⟨k', .child child', below.symm⟩
      | body applied =>
        have bodies := congrArg appliedBody? same
        simp only [appliedBody?_unevaluated, applied, Option.map_some] at bodies
        obtain ⟨k', applied', below⟩ := Option.map_eq_some_iff.mp bodies.symm
        exact ⟨k', .body applied', below.symm⟩
    obtain ⟨m', reached', result⟩ := ih below
    exact ⟨m', .step enters' reached', result⟩

end Unevaluated

mutual

/-- In all scopes together, a tree looks into some of them. -/
theorem Node.scopedIn_of_forall {V : ScopeId → Prop} (all : ∀ id, V id) (n : Node) :
    n.ScopedIn V := by
  match n with
  | .literal .. | .failure .. | .reference .. => trivial
  | .parameter _ scope _ => exact ⟨all _, fun id _ => all id⟩
  | .operator _ _ children _ | .function _ _ children _ =>
    exact allScopedIn_of_forall all children
  | .lambda _ _ scope body none _ => exact scopedIn_of_forall (fun id => .inr (all id)) body
  | .lambda _ _ scope body (some arguments) _ =>
    exact ⟨allScopedIn_of_forall all arguments, scopedIn_of_forall (fun id => .inr (all id)) body⟩

theorem Node.allScopedIn_of_forall {V : ScopeId → Prop} (all : ∀ id, V id) (nodes : List Node) :
    Node.AllScopedIn V nodes := by
  match nodes with
  | [] => trivial
  | n :: rest => exact ⟨scopedIn_of_forall all n, allScopedIn_of_forall all rest⟩

end

/-- Bindings are related to themselves, in all scopes. -/
theorem Environment.related_refl {env : Environment} :
    Environment.Related Eq (fun _ => True) env env := by
  intro id _ key
  cases (env.frame id).lookup key with
  | none => exact .none
  | some binding =>
    refine .some ?_
    cases binding with
    | operand x => exact .operand rfl
    | parameter name scope => exact .parameter ⟨trivial, fun _ _ => trivial⟩

/-- The calls do not depend on what nodes have kept from earlier evaluations. -/
theorem Session.calls_evaluate_unevaluated {s : Session} {awaiting : Bool} {f : Formula} :
    (s.evaluate awaiting (some ⟨f.root.unevaluated, f.environment⟩)).calls =
      (s.evaluate awaiting (some f)).calls := by
  let r := f.root.evaluate s.surroundings (awaitsWhen awaiting) f.environment
  let fresh := f.root.unevaluated.evaluate s.surroundings (awaitsWhen awaiting) f.environment
  have same : r.1.reached = fresh.1.reached :=
    Node.reached_evaluate Environment.related_refl f.root
      (Node.scopedIn_of_forall (fun _ => trivial) f.root)
  have calls := congrArg (Node.callsMade (awaitsWhen awaiting)) same
  rw [Node.callsMade_reached, Node.callsMade_reached] at calls
  simp only [evaluate_eq]
  exact calls.symm

/-- The order of calls. An evaluation makes one call for every function node that it visits, and no
other. The calls are made in post-order: those for children from left to right, those for the body
of a lambda after those for its arguments, and the one for a node after all of these; a body is
visited only if its lambda is invoked with no more arguments than it has parameters. The arguments
of a call are the results that the evaluation has left in the children of the node, and nothing that
has been kept from earlier evaluations is among them. -/
theorem Session.calls_evaluate {s : Session} {awaiting : Bool} {f : Formula} :
    let e := s.evaluate awaiting (some f)
    ∃ (g : Formula) (made : List (Place × Call)),
      e.formula = some g ∧ g.root.unevaluated = f.root.unevaluated ∧
      e.calls = made.map Prod.snd ∧
      (made.map Prod.fst).Pairwise Place.Precedes ∧ (made.map Prod.fst).Nodup ∧
      (∀ p, p ∈ made.map Prod.fst ↔ ∃ n, f.root.Reaches p n ∧ n.function?.isSome) ∧
      (∀ p c, (p, c) ∈ made → ∃ n m, f.root.Reaches p n ∧ n.function? = some c.function ∧
        g.root.Reaches p m ∧ m.Made (awaitsWhen awaiting) c) ∧
      (s.evaluate awaiting (some ⟨f.root.unevaluated, f.environment⟩)).calls = e.calls := by
  intro e
  let r := f.root.evaluate s.surroundings (awaitsWhen awaiting) f.environment
  have result : e = ⟨r.1.operand, some ⟨r.1, r.2⟩, r.1.callsMade (awaitsWhen awaiting)⟩ :=
    evaluate_eq
  have evaluated : r.1.IsEvaluated s.surroundings (awaitsWhen awaiting) := ⟨_, _, rfl⟩
  have tree : r.1.unevaluated = f.root.unevaluated := Node.unevaluated_evaluate _ _
  have ordered : ((r.1.callsAt (awaitsWhen awaiting)).map Prod.fst).Pairwise Place.Precedes :=
    r.1.pairwise_callsAt
  have made : ∀ p c, (p, c) ∈ r.1.callsAt (awaitsWhen awaiting) →
      ∃ n m, f.root.Reaches p n ∧ n.function? = some c.function ∧ r.1.Reaches p m ∧
        m.Made (awaitsWhen awaiting) c := by
    intro p c member
    obtain ⟨m, reached, call⟩ := Node.mem_callsAt.mp member
    have made := (evaluated.of_reaches reached).made call
    -- The place has been found in the evaluated tree; it is one of the tree before as well.
    obtain ⟨n, reached', same⟩ := reached.exists_of_unevaluated tree
    exact ⟨n, m, reached', Node.function?_eq_of_unevaluated same ▸ made.function, reached, made⟩
  refine ⟨⟨r.1, r.2⟩, r.1.callsAt (awaitsWhen awaiting), congrArg Evaluation.formula result, tree,
    (congrArg Evaluation.calls result).trans (Node.callsMade_eq r.1), ordered,
    ordered.imp Place.Precedes.ne, fun p => ⟨fun member => ?_, ?_⟩, made,
    calls_evaluate_unevaluated⟩
  · obtain ⟨⟨q, c⟩, inside, rfl⟩ := List.mem_map.mp member
    obtain ⟨n, m, reached, function, -⟩ := made q c inside
    exact ⟨n, reached, Option.isSome_of_mem function⟩
  · rintro ⟨n, reached, function⟩
    obtain ⟨m, reached', same⟩ := reached.exists_of_unevaluated tree.symm
    obtain ⟨c, call⟩ := Node.exists_call? (Node.function?_eq_of_unevaluated same ▸ function)
    exact List.mem_map.mpr ⟨(p, c), Node.mem_callsAt.mpr ⟨m, reached', call⟩, rfl⟩

end Spreadsheet
