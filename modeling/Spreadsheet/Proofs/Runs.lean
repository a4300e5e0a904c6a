import Spreadsheet.Proofs.Results

/-!
# Runs

A session in use: formulas are built, they are evaluated any number of times, and results are
written into cells that later evaluations read. `Workspace.WellFormed` is what each of these actions
keeps (`Workspace.WellFormed.perform`): cells with numbers of one kind, and well-formed operands
wherever results are kept or names are bound.

So no run over finite data comes upon an infinity, or upon an array that is empty, nested or not
filled (`Workspace.wellFormed_run`).
-/

namespace Spreadsheet

/-- A session with the formulas that have been built in it, and the results of all evaluations. -/
structure Workspace where
  session : Session
  formulas : List Formula := []
  results : List Operand := []

/-- The workspace with another formula. -/
def Workspace.build (w : Workspace) (b : Builder) (t : ParseTree) : Workspace :=
  { w with formulas := w.formulas ++ [⟨b.build t, {}⟩] }

/-- The workspace after an evaluation of the formula with an index. -/
def Workspace.evaluate (w : Workspace) (awaiting : Bool) (i : Nat) : Workspace :=
  let e := w.session.evaluate awaiting w.formulas[i]?
  { w with
    formulas := (e.formula.map (w.formulas.set i)).getD w.formulas
    results := w.results ++ [e.result] }

/-- The workspace with the result with an index written into the cells from an anchor on. -/
def Workspace.write (w : Workspace) (anchor : Position) (sheet : String) (k : Nat) : Workspace :=
  match w.results[k]? with
  | some x => { w with session := w.session.write anchor sheet x }
  | none => w

/-- What is done in a workspace. Formulas and results are counted from zero in the order in which
they have come. -/
inductive Workspace.Action where
  | build (b : Builder) (t : ParseTree)
  | evaluate (awaiting : Bool) (formula : Nat)
  | write (anchor : Position) (sheet : String) (result : Nat)

def Workspace.perform (w : Workspace) : Action → Workspace
  | .build b t => w.build b t
  | .evaluate awaiting formula => w.evaluate awaiting formula
  | .write anchor sheet result => w.write anchor sheet result

/-- The workspace after several actions, one after another. -/
def Workspace.run (w : Workspace) (actions : List Action) : Workspace :=
  actions.foldl perform w

/-- Whether formulas that an action builds call standard functions only. -/
def Workspace.Action.IsStandard : Action → Prop
  | .build b _ => b.config.registry = .standard
  | .evaluate .. | .write .. => True

/-! ## What every action keeps -/

/-- Whether a formula with standard functions keeps well-formed operands only. -/
structure Formula.WellFormed (N : Number → Prop) (f : Formula) : Prop where
  built : ∃ b t, b.config.registry = .standard ∧ f.root.unevaluated = Builder.build b t
  kept : ∀ n ∈ f.root.nodes, n.Kept (Operand.WellFormed N)
  bound : f.environment.AllBound (Operand.WellFormed N)

/-- Whether the cells of a workspace keep numbers of one kind, and its formulas and results are well
formed. -/
structure Workspace.WellFormed (N : Number → Prop) (w : Workspace) : Prop where
  data : w.session.config.data.Holds N
  runtime : w.session.runtime.Holds N
  formulas : ∀ f ∈ w.formulas, f.WellFormed N
  results : ∀ x ∈ w.results, x.WellFormed N

section Steps

variable {N : Number → Prop}

theorem Formula.wellFormed_build {b : Builder} {t : ParseTree}
    (standard : b.config.registry = .standard) : Formula.WellFormed N ⟨b.build t, {}⟩ where
  built := ⟨b, t, standard, Builder.invariant_unevaluated.make t⟩
  kept := Builder.kept_build
  bound := Environment.allBound_empty

/-- Building a formula with standard functions adds a well-formed one. -/
theorem Workspace.WellFormed.build {w : Workspace} (wellFormed : w.WellFormed N) {b : Builder}
    (standard : b.config.registry = .standard) (t : ParseTree) : (w.build b t).WellFormed N where
  data := wellFormed.data
  runtime := wellFormed.runtime
  formulas := by
    have added : Formula.WellFormed N ⟨b.build t, {}⟩ := Formula.wellFormed_build standard
    exact List.forall_mem_append.mpr ⟨wellFormed.formulas, List.forall_mem_singleton.mpr added⟩
  results := wellFormed.results

/-- Writing a result leaves numbers of one kind in the cells. -/
theorem Workspace.WellFormed.write {w : Workspace} (wellFormed : w.WellFormed N)
    (anchor : Position) (sheet : String) (k : Nat) : (w.write anchor sheet k).WellFormed N := by
  unfold Workspace.write
  split
  · rename_i x here
    have written : x.WellFormed N := wellFormed.results x (List.mem_of_getElem? here)
    exact ⟨wellFormed.data, written.holds_write wellFormed.runtime anchor sheet,
      wellFormed.formulas, wellFormed.results⟩
  · exact wellFormed

variable (closed : Arithmetic.Closed N)

include closed

/-- The evaluation of a well-formed formula over cells with numbers of one kind has a well-formed
result, and leaves the formula well formed. -/
theorem Session.wellFormed_evaluate {s : Session} (data : s.config.data.Holds N)
    (runtime : s.runtime.Holds N) {awaiting : Bool} {f : Formula} (wellFormed : f.WellFormed N) :
    (s.evaluate awaiting (some f)).result.WellFormed N ∧
      ∀ g ∈ (s.evaluate awaiting (some f)).formula, g.WellFormed N := by
  obtain ⟨⟨b, t, standard, tree⟩, kept, bound⟩ := wellFormed
  have layers : ∀ layer ∈ s.surroundings.layers, layer.Holds N :=
    List.forall_mem_cons.mpr ⟨runtime, List.forall_mem_singleton.mpr data⟩
  have produces : ∀ m ∈ f.root.nodes,
      m.Produces (Operand.WellFormed N) s.surroundings (awaitsWhen awaiting) := by
    apply Node.forall_produces
    rw [tree]
    exact Builder.produces_wellFormed closed standard layers
  obtain ⟨after, results⟩ :=
    Node.kept_evaluate Operand.wellFormed_ofError bound f.root kept produces
  have root := (results _ Node.mem_nodes_self).operand Operand.wellFormed_ofError
  rw [evaluate_eq]
  refine ⟨root, fun g left => ?_⟩
  cases left
  exact ⟨⟨b, t, standard, (Node.unevaluated_evaluate _ _).trans tree⟩, results, after⟩

/-- Evaluating a formula, or one that is missing, has a well-formed result. -/
theorem Workspace.WellFormed.evaluate {w : Workspace} (wellFormed : w.WellFormed N)
    (awaiting : Bool) (i : Nat) : (w.evaluate awaiting i).WellFormed N := by
  have evaluated : (w.session.evaluate awaiting w.formulas[i]?).result.WellFormed N ∧
      ∀ g ∈ (w.session.evaluate awaiting w.formulas[i]?).formula, g.WellFormed N := by
    cases here : w.formulas[i]? with
    | none => exact ⟨Operand.wellFormed_ofError _, fun g left => by cases left⟩
    | some f =>
      have before : f.WellFormed N := wellFormed.formulas f (List.mem_of_getElem? here)
      exact Session.wellFormed_evaluate closed wellFormed.data wellFormed.runtime before
  obtain ⟨result, left⟩ := evaluated
  refine ⟨wellFormed.data, wellFormed.runtime, fun g member => ?_, ?_⟩
  · unfold Workspace.evaluate at member
    dsimp only at member
    cases formula : (w.session.evaluate awaiting w.formulas[i]?).formula with
    | none =>
      rw [formula] at member
      exact wellFormed.formulas g member
    | some f =>
      rw [formula] at member
      rcases List.mem_or_eq_of_mem_set member with old | rfl
      · exact wellFormed.formulas g old
      · exact left g formula
  · exact List.forall_mem_append.mpr ⟨wellFormed.results, List.forall_mem_singleton.mpr result⟩

/-- Every action keeps a workspace well formed. -/
theorem Workspace.WellFormed.perform {w : Workspace} (wellFormed : w.WellFormed N)
    {action : Workspace.Action} (standard : action.IsStandard) :
    (w.perform action).WellFormed N := by
  cases action with
  | build b t => exact wellFormed.build standard t
  | evaluate awaiting i => exact wellFormed.evaluate closed awaiting i
  | write anchor sheet k => exact wellFormed.write anchor sheet k

theorem Workspace.WellFormed.run {w : Workspace} (wellFormed : w.WellFormed N)
    {actions : List Workspace.Action} (standard : ∀ action ∈ actions, action.IsStandard) :
    (w.run actions).WellFormed N := by
  induction actions generalizing w with
  | nil => exact wellFormed
  | cons action rest ih =>
    rw [List.forall_mem_cons] at standard
    exact ih (wellFormed.perform closed standard.1) standard.2

end Steps

/-! ## Runs over finite data -/

/-- Every value that a formula can produce is well formed. Take any run from a session whose data
keep finite numbers only: formulas with standard functions are built from any trees, evaluated in
any order, with waiting or not, and their results are written anywhere. Then the values kept in
nodes, those of the results, and those read from written cells are scalars, or arrays of scalars
that fill a shape with at least one row and one column; and all their numbers are finite. -/
theorem Workspace.wellFormed_run {config : Config} {actions : List Workspace.Action}
    (finite : config.data.Holds fun n => n.isFinite)
    (standard : ∀ action ∈ actions, action.IsStandard) :
    let w := ({ session := { config } } : Workspace).run actions
    (∀ f ∈ w.formulas, ∀ n ∈ f.root.nodes, ∀ x, n.result? = some x →
        x.force.WellFormed fun n => n.isFinite) ∧
      (∀ x ∈ w.results, x.force.WellFormed fun n => n.isFinite) ∧
      ∀ unit sheet p c, w.session.runtime.cell? unit sheet p = some c →
        c.value.WellFormed fun n => n.isFinite := by
  intro w
  have start : Workspace.WellFormed (fun n => n.isFinite) { session := { config } } :=
    ⟨finite, CellStore.holds_empty, fun f none => absurd none List.not_mem_nil,
      fun x none => absurd none List.not_mem_nil⟩
  obtain ⟨-, runtime, formulas, results⟩ := start.run Arithmetic.closed_isFinite standard
  refine ⟨fun f built n below x kept => ?_, fun x given => ?_, fun unit sheet p c stored => ?_⟩
  · exact ((formulas f built).kept n below x kept).force
  · exact (results x given).force
  · exact .scalar ((runtime unit sheet p c stored).isScalar_value Arithmetic.closed_isFinite)

/-- A column added to a cell, written beside the cell. -/
theorem Workspace.wellFormed_run_column :
    let data := ({} : CellStore).setCell "book" "one" ⟨0, 0⟩ (.ofNumber (.ofInt 3))
    let config : Config := { unit := "book", sheet := "one", data, registry := .standard }
    let b : Builder := ⟨config, [.function, .operator, .value, .reference]⟩
    let t := ParseTree.binary "+" (.leaf "\x7b1;2\x7d") (.leaf "A1")
    let w := ({ session := { config } } : Workspace).run
      [.build b t, .evaluate false 0, .write ⟨0, 1⟩ "one" 0]
    (config.data.Holds fun n => n.isFinite) ∧
      ∃ x, w.results = [x] ∧ x.shape = (2, 1) ∧ x.force.WellFormed fun n => n.isFinite := by
  intro data config b t w
  have finite : config.data.Holds fun n => n.isFinite := by
    intro unit sheet p c stored
    change data.cell? unit sheet p = some c at stored
    rw [CellStore.cell?_setCell] at stored
    split at stored
    · cases stored
      intro n kept
      cases kept
      rfl
    · cases stored
  have standard : ∀ action ∈ [Action.build b t, .evaluate false 0, .write ⟨0, 1⟩ "one" 0],
      action.IsStandard := by
    simp only [List.forall_mem_cons]
    exact ⟨rfl, trivial, trivial, fun action none => absurd none List.not_mem_nil⟩
  have shapes : w.results.map Operand.shape = [(2, 1)] := by decide +kernel
  obtain ⟨x, results, shape⟩ := List.map_eq_singleton_iff.mp shapes
  obtain ⟨-, wellFormed, -⟩ := wellFormed_run finite standard
  exact ⟨finite, x, results, shape, wellFormed x (results ▸ List.mem_singleton_self x)⟩

end Spreadsheet
