import Spreadsheet.Json.Value
import Spreadsheet.Proofs.Broadcasting
import Spreadsheet.Proofs.Enumeration
import Spreadsheet.Proofs.Results

/-!
# The limit of writes

Whether a result is too large to be written is decided by the shape that it announces, and what is
written are its cells, those of a reference as a pass over it yields them
(`Session.runtime_write_reference`). So the limit holds as long as no array has more cells than its
shape (`Session.length_changes_le`). All ways to make arrays keep to that (`Value.Obtained.fits`),
but for one: a stored array is read with the shape that it announces
(`Session.exceeds_limit_of_stored`).
-/

namespace Spreadsheet

/-! ## Grids no larger than their shapes -/

/-- Whether a grid has no more cells than its shape. -/
def Grid.Fits {α : Type} (g : Grid α) : Prop :=
  g.cells.length ≤ g.rows * g.columns

section Grids

variable {α β γ : Type} {g : Grid α}

theorem Grid.IsFull.fits (full : g.IsFull) : g.Fits :=
  Nat.le_of_eq full

theorem Grid.fits_of_ofCells? {rows columns : Nat} {cells : List α}
    (made : Grid.ofCells? rows columns cells = some g) : g.cells = cells ∧ g.Fits := by
  unfold ofCells? at made
  split at made
  · rename_i filled
    cases made
    exact ⟨rfl, Nat.le_of_eq filled.symm⟩
  · cases made

theorem Grid.fits_filled (rows columns : Nat) (a : α) : (Grid.filled rows columns a).Fits :=
  Nat.le_of_eq List.length_replicate

theorem Grid.Fits.map {f : α → β} (fits : g.Fits) : (g.map f).Fits := by
  rw [Grid.Fits, Grid.map, List.length_map]
  exact fits

theorem Grid.fits_zipBroadcast {f : α → β → γ} {missing : γ} {k : Grid β} :
    (g.zipBroadcast f missing k).Fits :=
  Nat.le_of_eq length_flatMap_range

/-- A reference to more cells than can be counted yields fewer of them. -/
theorem Reference.fits_toGrid (r : Reference) : r.toGrid.Fits := by
  rw [Grid.Fits, toGrid, length_values]
  exact Nat.min_le_left _ _

end Grids

/-! ## Values no larger than their shapes -/

/-- Whether no array in a value, at any depth, has more cells than its shape. -/
inductive Value.Fits : Value → Prop
  | scalar {v : Value} (scalar : ¬ v.isArray) : Fits v
  | array {g : Grid Value} (grid : g.Fits) (cells : ∀ v ∈ g.cells, v.Fits) : Fits (.array g)

section Fitting

variable {g : Grid Value} {x y : Value}

theorem Value.Fits.grid (fits : (Value.array g).Fits) : g.Fits := by
  cases fits with
  | scalar scalar => exact absurd rfl scalar
  | array grid _ => exact grid

theorem Value.Fits.cells (fits : (Value.array g).Fits) : ∀ v ∈ g.cells, v.Fits := by
  cases fits with
  | scalar scalar => exact absurd rfl scalar
  | array _ cells => exact cells

/-- An operation on the scalars inside a value keeps the shapes of its arrays. -/
theorem Value.Fits.mapScalars {op : Value → Value} (scalars : ∀ v, ¬ (op v).isArray)
    (fits : x.Fits) : (Value.mapScalars op x).Fits := by
  induction x using cellInduction with
  | plain v plain =>
    rw [plain.mapScalars]
    exact .scalar (scalars v)
  | error e => exact .scalar Bool.false_ne_true
  | array g ih =>
    rw [mapScalars_array]
    refine .array fits.grid.map (List.forall_mem_map.mpr fun v member => ?_)
    exact ih v member (fits.cells v member)

/-- An operation on two scalars makes no array larger than its shape when it is extended to all
values. -/
theorem Value.Fits.broadcast {op : Value → Value → Value} (scalars : ∀ v w, ¬ (op v w).isArray)
    (left : x.Fits) (right : y.Fits) : (Value.broadcast op x y).Fits := by
  induction x using cellInduction generalizing y with
  | plain v plain =>
    rw [plain.broadcast]
    exact right.mapScalars (scalars v)
  | error e => exact .scalar Bool.false_ne_true
  | array g ih =>
    have each : ∀ v ∈ g.cells, ∀ w : Value, w.Fits → (Value.broadcast op v w).Fits :=
      fun v member w => ih v member (left.cells v member)
    -- Two arrays get a new shape and as many cells; next to a scalar the shape is kept.
    cases y with
    | error e =>
      rw [broadcast_array]
      exact .scalar Bool.false_ne_true
    | array h =>
      rw [broadcast_arrays]
      refine .array Grid.fits_zipBroadcast fun z member => ?_
      rcases Grid.mem_zipBroadcast member with ⟨v, here, w, there, rfl⟩ | rfl
      · exact each v here w (right.cells w there)
      · exact .scalar Bool.false_ne_true
    | null | bool _ | number _ | text _ =>
      have plain : ∀ w : Value, w.IsPlain → w.Fits →
          (Value.broadcast op (.array g) w).Fits := by
        intro w plain fits
        rw [broadcast_array, applyCells_scalar plain.1 plain.2, Grid.map_map]
        exact .array left.grid.map (List.forall_mem_map.mpr fun v member => each v member w fits)
      exact plain _ ⟨Bool.false_ne_true, Bool.false_ne_true⟩ right

/-- What operations make of scalars are scalars. -/
theorem BinaryOperation.exists_scalars (op : BinaryOperation) :
    ∃ scalars : Value → Value → Value, op.apply = Value.broadcast scalars ∧
      ∀ v w, ¬ (scalars v w).isArray := by
  have computed : ∀ (op : Arithmetic) (v w : Value), ¬ (Value.scalarArithmetic op v w).isArray := by
    intro op v w
    unfold Value.scalarArithmetic Arithmetic.apply
    split
    · split
      · split <;> exact Bool.false_ne_true
      · exact Bool.false_ne_true
    · exact Bool.false_ne_true
  cases op with
  | plus | minus | times | dividedBy | power => exact ⟨_, rfl, computed _⟩
  | relates r => exact ⟨_, rfl, fun _ _ => Bool.false_ne_true⟩
  | relatesToPattern r =>
    refine ⟨_, rfl, fun v w => ?_⟩
    unfold Value.scalarMatches
    split <;> exact Bool.false_ne_true
  | precededBy | followedBy => exact ⟨_, rfl, fun _ _ => Bool.false_ne_true⟩

theorem BinaryOperation.fits_apply (op : BinaryOperation) (left : x.Fits) (right : y.Fits) :
    (op.apply x y).Fits := by
  obtain ⟨_, extended, scalars⟩ := op.exists_scalars
  rw [extended]
  exact left.broadcast scalars right

end Fitting

/-! ## Ways to make values -/

/-- Whether a value can be made: it is a scalar, or comes from the constructors of arrays and from
operations on values that can be made. A stored value is among them if none of its arrays has more
cells than it announces. -/
inductive Value.Obtained : Value → Prop
  | scalar {v : Value} (scalar : ¬ v.isArray) : Obtained v
  | ofCells {rows columns : Nat} {cells : List Value} {g : Grid Value}
    (made : Grid.ofCells? rows columns cells = some g) (each : ∀ v ∈ cells, v.Obtained) :
    Obtained (.array g)
  | ofRows {rows : List (List Value)} (each : ∀ row ∈ rows, ∀ v ∈ row, v.Obtained) :
    Obtained (.array (.ofRows .null rows))
  | filled (rows columns : Nat) {v : Value} (cell : v.Obtained) :
    Obtained (.array (.filled rows columns v))
  | read (r : Reference) : Obtained (.array r.toGrid)
  | map {g : Grid Value} {f : Value → Value} (array : Obtained (.array g))
    (each : ∀ v ∈ g.cells, (f v).Obtained) : Obtained (.array (g.map f))
  | zipBroadcast {g h : Grid Value} {f : Value → Value → Value} (left : Obtained (.array g))
    (right : Obtained (.array h)) (each : ∀ v ∈ g.cells, ∀ w ∈ h.cells, (f v w).Obtained) :
    Obtained (.array (g.zipBroadcast f notAvailable h))
  | cell {g : Grid Value} {v : Value} (array : Obtained (.array g)) (member : v ∈ g.cells) :
    Obtained v
  | operation (op : BinaryOperation) {v w : Value} (left : v.Obtained) (right : w.Obtained) :
    Obtained (op.apply v w)
  | stored {j : Json} {v : Value} (read : Value.ofJson? j = some v) (fits : v.Fits) : Obtained v
  | storedGrid {j : Json} {g : Grid Value} (read : Value.grid? j = some g)
    (fits : (Value.array g).Fits) : Obtained (.array g)

/-- Whether an operand is a reference or a value that can be made. -/
inductive Operand.Obtained : Operand → Prop
  | value {v : Value} (obtained : v.Obtained) : Obtained (.value v)
  | reference (r : Reference) : Obtained (.reference r)

/-- However a value is made, no array in it has more cells than its shape. -/
theorem Value.Obtained.fits {v : Value} (obtained : v.Obtained) : v.Fits := by
  induction obtained with
  | scalar scalar => exact .scalar scalar
  | ofCells made _ ih =>
    obtain ⟨cells, fits⟩ := Grid.fits_of_ofCells? made
    exact .array fits (cells ▸ ih)
  | ofRows _ ih =>
    refine .array (Grid.isFull_ofRows _ _).fits fun v member => ?_
    rcases Grid.mem_ofRows member with ⟨row, inRows, inRow⟩ | rfl
    · exact ih row inRows v inRow
    · exact .scalar Bool.false_ne_true
  | filled rows columns _ ih =>
    refine .array (Grid.fits_filled rows columns _) fun w member => ?_
    rw [List.eq_of_mem_replicate member]
    exact ih
  | read r =>
    refine .array r.fits_toGrid fun v member => ?_
    obtain ⟨p, -, rfl⟩ := List.mem_map.mp member
    exact .scalar (r.not_isArray_read p)
  | map _ _ array each => exact .array array.grid.map (List.forall_mem_map.mpr each)
  | zipBroadcast _ _ _ left right each =>
    refine .array Grid.fits_zipBroadcast fun z member => ?_
    rcases Grid.mem_zipBroadcast member with ⟨v, here, w, there, rfl⟩ | rfl
    · exact each v here w there
    · exact .scalar Bool.false_ne_true
  | cell _ member ih => exact ih.cells _ member
  | operation op _ _ left right => exact op.fits_apply left right
  | stored _ fits => exact fits
  | storedGrid _ fits => exact fits

/-! ## Results of formulas -/

section Results

variable {x : Operand}

theorem Operand.obtained_ofError (e : FormulaError) : (Operand.ofError e).Obtained :=
  .value (.scalar Bool.false_ne_true)

theorem Operand.Obtained.force (obtained : x.Obtained) : x.force.Obtained := by
  cases obtained with
  | value obtained => exact obtained
  | reference r =>
    change r.force.Obtained
    unfold Reference.force
    split
    · exact .scalar (r.not_isArray_read _)
    · exact .read r

/-- Scalars and tables of scalars can be made. -/
theorem Value.WellFormed.obtained {N : Number → Prop} {v : Value} (wellFormed : v.WellFormed N) :
    v.Obtained := by
  cases wellFormed with
  | scalar scalar => exact .scalar scalar.not_isArray
  | @table g table =>
    have made : Grid.ofCells? g.rows g.columns g.cells = some g := if_pos table.full.symm
    exact .ofCells made fun v member => .scalar (table.cells v member).not_isArray

theorem Operator.obtained_apply {op : Operator} {operands : List Value}
    (each : ∀ v ∈ operands, v.Obtained) : (op.apply operands).Obtained := by
  have arithmetic : ∀ (op : Arithmetic) {v w : Value}, v.Obtained → w.Obtained →
      (v.arithmetic op w).Obtained := by
    intro op v w left right
    cases op with
    | plus => exact .operation .plus left right
    | minus => exact .operation .minus left right
    | times => exact .operation .times left right
    | divide => exact .operation .dividedBy left right
    | power => exact .operation .power left right
  have constant : ∀ n, (Value.ofInt n).Obtained := fun n => .scalar Bool.false_ne_true
  unfold apply
  split
  · exact arithmetic _ (each _ (by simp)) (each _ (by simp))
  · exact .operation .followedBy (each _ (by simp)) (each _ (by simp))
  · exact .operation (.relates _) (each _ (by simp)) (each _ (by simp))
  · exact arithmetic .minus (constant 0) (each _ (by simp))
  · exact each _ (by simp)
  · exact arithmetic .divide (each _ (by simp)) (constant 100)
  · exact .scalar Bool.false_ne_true

/-- Whether a function makes operands that can be made out of such operands. -/
def Function.KeepsObtained (f : Function) : Prop :=
  ∀ awaiting xs, (∀ x ∈ xs, x.Obtained) → (f.invoke awaiting xs).Obtained

theorem Function.keepsObtained_of_standard {f : Function} (standard : f ∈ standardFunctions) :
    f.KeepsObtained := by
  have numbers : ∀ outcome, (Operand.ofNumber? outcome).Obtained := by
    intro outcome
    cases outcome <;> exact .value (.scalar Bool.false_ne_true)
  intro awaiting xs _
  rw [invoke_of_standard standard]
  simp only [standardFunctions, List.mem_cons, List.not_mem_nil, or_false] at standard
  rcases standard with rfl | rfl | rfl | rfl
  · unfold Function.sum
    dsimp only
    split
    · exact Operand.obtained_ofError _
    · exact numbers _
  · exact numbers _
  · exact numbers _
  · exact numbers _

/-- The result of a formula can be made, if functions of the host keep to operands that can. -/
theorem Session.obtained_evaluate (s : Session) (awaiting : Bool) {b : Builder} (t : ParseTree)
    (keeps : ∀ name f, b.config.registry.find? name = some f → f.KeepsObtained) :
    (s.evaluate awaiting (some ⟨b.build t, {}⟩)).result.Obtained := by
  have produces : ∀ m ∈ (b.build t).nodes,
      m.Produces Operand.Obtained s.surroundings (awaitsWhen awaiting) := by
    intro m member
    have built : m.IsBuilt b.config := Builder.invariant_isBuilt.make t m member
    match m with
    | .literal token v _ =>
      have constant : v = .ofConstant token := built
      rw [constant]
      exact .value (Value.wellFormed_ofConstant Arithmetic.closed_true token).obtained
    | .operator _ op _ _ =>
      intro xs each
      refine .value (Operator.obtained_apply (List.forall_mem_map.mpr fun x inside => ?_))
      exact (each x inside).force
    | .function token f _ _ => exact keeps token f built (awaitsWhen awaiting f)
    | .reference _ unit sheet range _ => exact .reference _
    | .failure .. | .parameter .. | .lambda .. => trivial
  obtain ⟨-, results⟩ := Node.kept_evaluate Operand.obtained_ofError
    Environment.allBound_empty (b.build t) Builder.kept_build produces
  rw [evaluate_eq]
  exact (results _ Node.mem_nodes_self).operand Operand.obtained_ofError

end Results

/-! ## Cells that are written -/

/-- The cells that a session writes for a result, with their positions, one after another. -/
def Session.changes (s : Session) (anchor : Position) (x : Operand) : List (Position × Cell) :=
  (x.spill s.config.options.maxSpillCells).map fun (row, column, v) =>
    (⟨anchor.row + row, anchor.column + column⟩, .ofValue v)

section Writing

variable {x : Operand} {limit : Nat}

theorem Grid.length_entries {α : Type} (g : Grid α) : g.entries.length = g.cells.length := by
  rw [entries, List.length_map, List.length_zipIdx]

theorem Operand.length_entries (x : Operand) : x.entries.length = x.cells.length := by
  match x with
  | .reference r => exact r.toGrid.length_entries
  | .value (.array g) => exact g.length_entries
  | .value .null | .value (.bool _) | .value (.number _) | .value (.text _) | .value (.error _) =>
    rfl

theorem Operand.Obtained.length_cells_le (obtained : x.Obtained) :
    x.cells.length ≤ x.shape.1 * x.shape.2 := by
  cases obtained with
  | reference r => exact r.fits_toGrid
  | @value v obtained =>
    cases v with
    | array g => exact obtained.fits.grid
    | null | bool _ | number _ | text _ | error _ => exact Nat.le_refl 1

/-- More cells than the limit allows are written exactly if there are more of them, but not in the
shape. -/
theorem Operand.lt_length_spill_iff (countable : x.cells.length ≤ greatestCount) :
    max 1 limit < (x.spill limit).length ↔
      x.shape.1 * x.shape.2 ≤ limit ∧ max 1 limit < x.cells.length := by
  unfold spill cellCount
  split
  · rw [List.length_singleton]
    omega
  · rw [length_entries]
    omega

theorem Session.length_changes (s : Session) (anchor : Position) (x : Operand) :
    (s.changes anchor x).length = (x.spill s.config.options.maxSpillCells).length :=
  List.length_map _

/-- Writing a result is writing its cells. -/
theorem Session.runtime_write (s : Session) (anchor : Position) (sheet : String) (x : Operand) :
    (s.write anchor sheet x).runtime = (s.changes anchor x).foldl
      (fun store change => store.setCell s.config.unit sheet change.1 change.2) s.runtime := by
  rw [changes, List.foldl_map]
  rfl

/-- The positions of a reference that is not too large are moved along with its first corner, which
comes to the anchor. -/
theorem Session.changes_reference {s : Session} {r : Reference}
    (few : r.range.size ≤ s.config.options.maxSpillCells) (ordered : r.range.IsOrdered)
    (anchor : Position) :
    s.changes anchor (.reference r) = r.cursor.collect.map fun (p, v) =>
      (⟨anchor.row + p.row - r.range.top, anchor.column + p.column - r.range.left⟩,
        .ofValue v) := by
  have spilled : (Operand.reference r).spill s.config.options.maxSpillCells = r.toGrid.entries :=
    if_neg (Nat.not_lt.mpr few)
  rw [changes, spilled, r.entries_toGrid, List.map_map]
  refine List.map_congr_left fun entry member => ?_
  have listed : entry ∈ r.entries := r.collect_cursor ▸ member
  obtain ⟨p, inside, rfl⟩ := List.mem_map.mp listed
  have corner := Range.contains_of_mem_positions ordered inside
  simp only [Range.contains, Bool.and_eq_true, decide_eq_true_eq] at corner
  simp only [Function.comp_apply, Nat.add_sub_assoc corner.1.1.1, Nat.add_sub_assoc corner.1.2]

/-- Such a reference is written entry by entry in a pass over it. -/
theorem Session.runtime_write_reference {s : Session} {r : Reference}
    (few : r.range.size ≤ s.config.options.maxSpillCells) (ordered : r.range.IsOrdered)
    (anchor : Position) (sheet : String) :
    (s.write anchor sheet (.reference r)).runtime = r.cursor.collect.foldl
      (fun store (p, v) => store.setCell s.config.unit sheet
        ⟨anchor.row + p.row - r.range.top, anchor.column + p.column - r.range.left⟩ (.ofValue v))
      s.runtime := by
  rw [runtime_write, changes_reference few ordered, List.foldl_map]

/-- No cell changes but those that are written. -/
theorem Session.cell?_write_of_not_mem {s : Session} {anchor p : Position}
    {sheet unit' sheet' : String}
    (missed : ¬ (unit' = s.config.unit ∧ sheet' = sheet ∧ p ∈ (s.changes anchor x).map (·.1))) :
    (s.write anchor sheet x).runtime.cell? unit' sheet' p = s.runtime.cell? unit' sheet' p := by
  refine CellStore.cell?_scatter_of_forall_ne fun entry member here => missed ?_
  refine ⟨here.1, here.2.1, ?_⟩
  rw [changes, List.map_map, here.2.2]
  exact List.mem_map_of_mem member

end Writing

/-! ## The limit -/

/-- The limit bounds a write. A result is written cell by cell, and no other cell changes. If the
result can be made, there are no more such cells than the limit allows, or a single one. There are
more exactly if the result announces a shape within the limit and has cells beyond it. Formulas have
results that can be made, unless a function of the host has others. -/
theorem Session.length_changes_le (s : Session) (anchor : Position) (sheet : String) (x : Operand)
    (countable : x.cells.length ≤ greatestCount) :
    let limit := s.config.options.maxSpillCells
    let changes := s.changes anchor x
    (s.write anchor sheet x).runtime = changes.foldl
        (fun store change => store.setCell s.config.unit sheet change.1 change.2) s.runtime ∧
      (∀ unit' sheet' p,
        ¬ (unit' = s.config.unit ∧ sheet' = sheet ∧ p ∈ changes.map (·.1)) →
        (s.write anchor sheet x).runtime.cell? unit' sheet' p =
          s.runtime.cell? unit' sheet' p) ∧
      (x.Obtained → changes.length ≤ max 1 limit) ∧
      (max 1 limit < changes.length ↔
        x.shape.1 * x.shape.2 ≤ limit ∧ max 1 limit < x.cells.length) ∧
      ∀ (b : Builder) (t : ParseTree) (awaiting : Bool),
        (∀ name f, b.config.registry.find? name = some f →
          f ∈ standardFunctions ∨ f.KeepsObtained) →
        (s.evaluate awaiting (some ⟨b.build t, {}⟩)).result.Obtained := by
  intro limit changes
  have exceeds : max 1 limit < changes.length ↔
      x.shape.1 * x.shape.2 ≤ limit ∧ max 1 limit < x.cells.length := by
    rw [length_changes]
    exact Operand.lt_length_spill_iff countable
  refine ⟨s.runtime_write anchor sheet x, fun unit' sheet' p => cell?_write_of_not_mem,
    fun obtained => ?_, exceeds, fun b t awaiting keeps => ?_⟩
  · have fits := obtained.length_cells_le
    rw [← Nat.not_lt, exceeds]
    omega
  · refine s.obtained_evaluate awaiting t fun name f found => ?_
    rcases keeps name f found with standard | keeps
    · exact Function.keepsObtained_of_standard standard
    · exact keeps

/-- A product of two arrays is larger than the limit; a stored array has just as many cells. -/
theorem Session.length_changes_le_of_arrays :
    let config : Config :=
      { unit := "book", sheet := "one", registry := .standard, options := { maxSpillCells := 3 } }
    let s : Session := { config }
    let b : Builder := ⟨config, [.operator, .value]⟩
    let x := (s.evaluate false
      (some ⟨b.build (.binary "*" (.leaf "\x7b1,2\x7d") (.leaf "\x7b3;4\x7d")), {}⟩)).result
    let truth := taggedJson "Bool" (.bool true)
    x.Obtained ∧ x.cells.length = 4 ∧ (s.changes ⟨0, 0⟩ x).length ≤ max 1 3 ∧
      ∃ v, Value.ofJson? (taggedJson "Array" (gridJson 1 3 [truth, truth, truth])) = some v ∧
        v.Obtained ∧ (s.changes ⟨0, 0⟩ (.value v)).length ≤ max 1 3 := by
  intro config s b x truth
  have count : x.cells.length = 4 := by decide +kernel
  have countable : x.cells.length ≤ greatestCount := by
    rw [count]
    decide
  obtain ⟨-, -, bounded, -, results⟩ := length_changes_le s ⟨0, 0⟩ "one" x countable
  have obtained : x.Obtained :=
    results b _ false fun name f found => .inl (mem_standardFunctions_of_find? found)
  have row : (Value.array ⟨1, 3, [.bool true, .bool true, .bool true]⟩).Obtained := by
    refine .stored (j := taggedJson "Array" (gridJson 1 3 [truth, truth, truth])) rfl ?_
    refine .array (Nat.le_refl 3) fun v member => .scalar ?_
    simp only [List.mem_cons, List.not_mem_nil, or_false, or_self] at member
    rw [member]
    exact Bool.false_ne_true
  obtain ⟨-, -, bounded', -, -⟩ := length_changes_le s ⟨0, 0⟩ "one"
    (.value (.array ⟨1, 3, [.bool true, .bool true, .bool true]⟩)) (by decide)
  exact ⟨obtained, count, bounded obtained, _, rfl, row, bounded' (.value row)⟩

/-- The shape that a stored array announces is not compared with its cells. -/
theorem Session.exceeds_limit_of_stored :
    let truth := taggedJson "Bool" (.bool true)
    let s : Session :=
      { config := { unit := "book", sheet := "one", options := { maxSpillCells := 1 } } }
    ∃ v, Value.ofJson? (taggedJson "Array" (gridJson 1 1 [truth, truth, truth])) = some v ∧
      max 1 s.config.options.maxSpillCells < (s.changes ⟨0, 0⟩ (.value v)).length ∧
      ∀ row < 3, s.runtime.cell? "book" "one" ⟨row, 0⟩ = none ∧
        (s.write ⟨0, 0⟩ "one" (.value v)).runtime.cell? "book" "one" ⟨row, 0⟩ =
          some (.ofBool true) := by
  intro truth s
  refine ⟨.array ⟨1, 1, [.bool true, .bool true, .bool true]⟩, rfl, by decide,
    fun row inside => ⟨rfl, ?_⟩⟩
  obtain rfl | rfl | rfl : row = 0 ∨ row = 1 ∨ row = 2 := by omega
  all_goals rfl

end Spreadsheet
