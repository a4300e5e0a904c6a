import Spreadsheet.Proofs.Evaluation

/-!
# The post-order of a tree

An evaluation visits children from left to right, then the body of a lambda that it can apply, and
then the node itself. `Node.visits` lists its visits in this order, each with the place of the node.

What the list has to be is said without recursion over the tree: `Node.Reaches` tells which nodes
are visited at all, and `Place.Precedes` orders their places. `Node.mem_visits` and
`Node.inPostOrder_visits` say that the list has exactly these nodes, and has them in this order.
-/

namespace Spreadsheet

/-! ## Places -/

/-- The way from a node to one right below it. -/
inductive Branch where
  | child (index : Nat)
  /-- The way to the body of a lambda. -/
  | body
deriving DecidableEq

/-- Whether what one branch leads to is visited before what another one leads to. -/
inductive Branch.Before : Branch → Branch → Prop
  | children {i j : Nat} (left : i < j) : Before (.child i) (.child j)
  | body {i : Nat} : Before (.child i) .body

/-- The place of a node in a tree, by the branches that lead to it from the root. -/
abbrev Place := List Branch

/-- The post-order of places. -/
inductive Place.Precedes : Place → Place → Prop
  /-- A node comes after all nodes below it. -/
  | root {b : Branch} {p : Place} : Precedes (b :: p) []
  | beside {b c : Branch} {p q : Place} (before : b.Before c) : Precedes (b :: p) (c :: q)
  | within {b : Branch} {p q : Place} (precedes : Precedes p q) : Precedes (b :: p) (b :: q)

theorem Branch.Before.ne {b c : Branch} (before : b.Before c) : b ≠ c := by
  rintro rfl
  cases before with
  | children left => exact Nat.lt_irrefl _ left

/-- No place precedes itself. -/
theorem Place.Precedes.ne {p q : Place} (precedes : Place.Precedes p q) : p ≠ q := by
  induction precedes with
  | root => exact List.cons_ne_nil _ _
  | beside before => exact fun same => before.ne (List.cons.inj same).1
  | within _ ih => exact fun same => ih (List.cons.inj same).2

/-! ## Nodes that are visited -/

/-- The body of a lambda that is invoked with no more arguments than it has parameters. -/
def Node.appliedBody? : Node → Option Node
  | .lambda _ parameters _ body (some arguments) _ =>
    if parameters.length < arguments.length then none else some body
  | _ => none

/-- Whether a branch leads from a node to one that is visited for it. -/
inductive Node.Enters : Node → Branch → Node → Prop
  | child {n m : Node} {i : Nat} (child : n.children[i]? = some m) : Enters n (.child i) m
  | body {n m : Node} (applied : n.appliedBody? = some m) : Enters n .body m

/-- Whether an evaluation of a tree visits a node at a place. -/
inductive Node.Reaches : Node → Place → Node → Prop
  | root {n : Node} : Reaches n [] n
  | step {n m k : Node} {b : Branch} {p : Place} (enters : n.Enters b m)
      (reaches : m.Reaches p k) : Reaches n (b :: p) k

/-- A node at its place. -/
structure Visit where
  place : Place
  node : Node

/-- The visit as one below a branch. -/
def Visit.below (b : Branch) (v : Visit) : Visit :=
  ⟨b :: v.place, v.node⟩

mutual

/-- The visits of an evaluation, in post-order. -/
def Node.visits : Node → List Visit
  | n@(.operator _ _ operands _) => Node.visitsFrom 0 operands ++ [⟨[], n⟩]
  | n@(.function _ _ arguments _) => Node.visitsFrom 0 arguments ++ [⟨[], n⟩]
  | n@(.lambda _ parameters _ body (some arguments) _) =>
    Node.visitsFrom 0 arguments ++
      (if parameters.length < arguments.length then []
        else (Node.visits body).map (.below .body)) ++ [⟨[], n⟩]
  | n => [⟨[], n⟩]

/-- The visits of an evaluation to children that are counted from `index`. -/
def Node.visitsFrom (index : Nat) : List Node → List Visit
  | [] => []
  | n :: rest => (Node.visits n).map (.below (.child index)) ++ Node.visitsFrom (index + 1) rest

end

/-- The visits below a node: those to its children, and those to the body that it applies. -/
def Node.visitsBelow (n : Node) : List Visit :=
  Node.visitsFrom 0 n.children ++
    n.appliedBody?.toList.flatMap fun body => body.visits.map (.below .body)

section Visits

variable {n m : Node} {v : Visit}

/-- A node is visited after all nodes below it. -/
theorem Node.visits_eq (n : Node) : n.visits = n.visitsBelow ++ [⟨[], n⟩] := by
  cases n with
  | literal | failure | reference | parameter => rfl
  | operator | function =>
    simp only [visits, visitsBelow, children, appliedBody?, Option.toList_none, List.flatMap_nil,
      List.append_nil]
  | lambda _ _ _ _ invocation =>
    cases invocation with
    | none => rfl
    | some arguments =>
      simp only [visits, visitsBelow, children, appliedBody?]
      split
      · rfl
      · simp only [Option.toList_some, List.flatMap_singleton]

theorem Node.Enters.sizeOf_lt {b : Branch} (enters : n.Enters b m) : sizeOf m < sizeOf n := by
  cases enters with
  | child child =>
    have member := List.sizeOf_lt_of_mem (List.mem_of_getElem? child)
    match n with
    | .literal .. | .failure .. | .reference .. | .parameter .. | .lambda _ _ _ _ none _ =>
      cases child
    | .operator .. | .function .. | .lambda _ _ _ _ (some _) _ =>
      simp only [children, operator.sizeOf_spec, function.sizeOf_spec, lambda.sizeOf_spec,
        Option.some.sizeOf_spec] at member ⊢
      omega
  | body applied =>
    match n with
    | .literal .. | .failure .. | .reference .. | .parameter .. | .operator .. | .function ..
    | .lambda _ _ _ _ none _ => cases applied
    | .lambda _ _ _ _ (some _) _ =>
      simp only [appliedBody?] at applied
      split at applied
      · cases applied
      · cases applied
        simp only [lambda.sizeOf_spec]
        omega

/-- What holds of a node if it holds of its children and of the body that it applies holds of every
node. -/
@[elab_as_elim]
theorem Node.visitInduction {P : Node → Prop}
    (step : ∀ n : Node, (∀ m ∈ n.children, P m) → (∀ m ∈ n.appliedBody?, P m) → P n)
    (n : Node) : P n := by
  refine step n (fun m member => ?_) (fun m applied => ?_)
  · obtain ⟨i, child⟩ := List.mem_iff_getElem?.mp member
    have smaller := (Enters.child child).sizeOf_lt
    exact visitInduction step m
  · have smaller := (Enters.body applied).sizeOf_lt
    exact visitInduction step m
termination_by sizeOf n

/-- The visits to children are those to each of them, below its own branch. -/
theorem Node.mem_visitsFrom {index : Nat} {below : List Node} :
    v ∈ Node.visitsFrom index below ↔
      ∃ i m w, below[i]? = some m ∧ w ∈ m.visits ∧ v = Visit.below (.child (index + i)) w := by
  induction below generalizing index with
  | nil => simp [visitsFrom]
  | cons first rest ih =>
    rw [visitsFrom, List.mem_append, List.mem_map, ih]
    constructor
    · rintro (⟨w, inFirst, rfl⟩ | ⟨i, m, w, here, inRest, rfl⟩)
      · exact ⟨0, first, w, rfl, inFirst, rfl⟩
      · exact ⟨i + 1, m, w, here, inRest, by rw [Nat.add_right_comm, Nat.add_assoc]⟩
    · rintro ⟨_ | i, m, w, here, inside, rfl⟩
      · cases here
        exact .inl ⟨w, inside, rfl⟩
      · exact .inr ⟨i, m, w, here, inside, by rw [Nat.add_right_comm, Nat.add_assoc]⟩

/-- The visits below a node are those to the nodes that its branches lead to. -/
theorem Node.mem_visitsBelow :
    v ∈ n.visitsBelow ↔ ∃ b m w, n.Enters b m ∧ w ∈ m.visits ∧ v = Visit.below b w := by
  rw [visitsBelow, List.mem_append, mem_visitsFrom]
  constructor
  · rintro (⟨i, m, w, child, inside, rfl⟩ | inBody)
    · exact ⟨_, m, w, .child child, inside, by rw [Nat.zero_add]⟩
    · obtain ⟨m, applied, inBody⟩ := List.mem_flatMap.mp inBody
      obtain ⟨w, inside, rfl⟩ := List.mem_map.mp inBody
      exact ⟨_, m, w, .body (Option.mem_toList.mp applied), inside, rfl⟩
  · rintro ⟨b, m, w, enters, inside, rfl⟩
    cases enters with
    | child child => exact .inl ⟨_, m, w, child, inside, by rw [Nat.zero_add]⟩
    | body applied =>
      exact .inr (List.mem_flatMap.mpr
        ⟨m, Option.mem_toList.mpr applied, List.mem_map_of_mem inside⟩)

/-- Exactly the nodes that an evaluation reaches are visited. -/
theorem Node.mem_visits {p : Place} : ⟨p, m⟩ ∈ n.visits ↔ n.Reaches p m := by
  constructor
  · intro member
    induction n using visitInduction generalizing p with
    | step n inChildren inBody =>
      rw [visits_eq, List.mem_append, List.mem_singleton, mem_visitsBelow] at member
      rcases member with ⟨b, k, w, enters, inside, same⟩ | same
      · cases same
        cases enters with
        | child child =>
          exact .step (.child child) (inChildren k (List.mem_of_getElem? child) inside)
        | body applied => exact .step (.body applied) (inBody k applied inside)
      · cases same
        exact .root
  · intro reached
    induction reached with
    | root =>
      rw [visits_eq]
      exact List.mem_append_right _ List.mem_cons_self
    | step enters _ ih =>
      rw [visits_eq]
      exact List.mem_append_left _ (mem_visitsBelow.mpr ⟨_, _, _, enters, ih, rfl⟩)

/-- The nodes that an evaluation visits, in post-order. -/
def Node.visited (n : Node) : List Node :=
  n.visits.map Visit.node

theorem Visit.map_node_below {b : Branch} {visits : List Visit} :
    (visits.map (Visit.below b)).map Visit.node = visits.map Visit.node :=
  List.map_map

theorem Node.map_node_visitsFrom {index : Nat} {below : List Node} :
    (Node.visitsFrom index below).map Visit.node = below.flatMap Node.visited := by
  induction below generalizing index with
  | nil => rfl
  | cons first rest ih =>
    rw [visitsFrom, List.map_append, Visit.map_node_below, ih, List.flatMap_cons, visited]

/-- The nodes that are visited are those below the children, those below the body that is applied,
and the node itself. -/
theorem Node.visited_eq (n : Node) :
    n.visited = n.children.flatMap Node.visited ++ n.appliedBody?.toList.flatMap Node.visited ++
      [n] := by
  rw [visited, visits_eq, visitsBelow, List.map_append, List.map_append, map_node_visitsFrom,
    List.map_flatMap]
  simp only [Visit.map_node_below]
  rfl

/-! ## The order of visits -/

/-- Whether visits are in post-order. -/
def InPostOrder (visits : List Visit) : Prop :=
  visits.Pairwise fun v w => Place.Precedes v.place w.place

theorem InPostOrder.below {visits : List Visit} (ordered : InPostOrder visits) (b : Branch) :
    InPostOrder (visits.map (.below b)) :=
  List.pairwise_map.mpr (List.Pairwise.imp .within ordered)

theorem Node.inPostOrder_visitsFrom {index : Nat} {below : List Node}
    (each : ∀ m ∈ below, InPostOrder m.visits) : InPostOrder (Node.visitsFrom index below) := by
  induction below generalizing index with
  | nil => exact .nil
  | cons first rest ih =>
    rw [List.forall_mem_cons] at each
    refine List.pairwise_append.mpr ⟨each.1.below _, ih each.2, fun v inFirst w inRest => ?_⟩
    obtain ⟨v, -, rfl⟩ := List.mem_map.mp inFirst
    obtain ⟨i, m, w, -, -, rfl⟩ := mem_visitsFrom.mp inRest
    exact .beside (.children (by omega))

/-- The visits of an evaluation are in post-order. -/
theorem Node.inPostOrder_visits (n : Node) : InPostOrder n.visits := by
  induction n using visitInduction with
  | step n ofChildren ofBody =>
    -- Each part of the visits is in order, and whatever is in it precedes the parts after it.
    have children : InPostOrder (Node.visitsFrom 0 n.children) := inPostOrder_visitsFrom ofChildren
    have body : InPostOrder
        (n.appliedBody?.toList.flatMap fun body => body.visits.map (.below .body)) := by
      cases applied : n.appliedBody? with
      | none => exact .nil
      | some body =>
        rw [Option.toList_some, List.flatMap_singleton]
        exact (ofBody body applied).below _
    have below : InPostOrder n.visitsBelow := by
      refine List.pairwise_append.mpr ⟨children, body, fun v inChildren w inBody => ?_⟩
      obtain ⟨i, m, v, -, -, rfl⟩ := mem_visitsFrom.mp inChildren
      obtain ⟨body, -, inBody⟩ := List.mem_flatMap.mp inBody
      obtain ⟨w, -, rfl⟩ := List.mem_map.mp inBody
      exact .beside .body
    rw [visits_eq]
    refine List.pairwise_append.mpr ⟨below, List.pairwise_singleton _ _, fun v inBelow w root => ?_⟩
    obtain ⟨b, m, v, -, -, rfl⟩ := mem_visitsBelow.mp inBelow
    obtain rfl := List.mem_singleton.mp root
    exact .root

end Visits

end Spreadsheet
