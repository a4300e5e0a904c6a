import Spreadsheet.Proofs.WellFormed

/-!
# Operators on arrays

A binary operator combines two values of which one is an array cell by cell, over the larger of
their shapes. A scalar counts as an array of one cell, and a dimension of size one is stretched; a
cell that one of the operands does not reach is `#N/A` (`BinaryOperation.apply_array`).

Grids are treated through what is read at their positions: a full grid is determined by that
(`Grid.ext_get?`), and `Grid.get?_zipBroadcast` says what is read from two grids combined. An
operator combines two arrays by definition, but an array and a scalar in another way. That this
makes no difference is `Grid.zipBroadcast_single`.
-/

namespace Spreadsheet

/-! ## Grids by their cells -/

section Grids

variable {α β γ : Type} {P : α → Prop} {g h : Grid α}

/-- Reading from rows of equal length that have been put one after another. -/
theorem getElem?_flatMap_range {rows columns row column : Nat} (cell : Nat → Nat → α)
    (above : row < rows) (inside : column < columns) :
    ((List.range rows).flatMap fun i => (List.range columns).map (cell i))[row * columns + column]? =
      some (cell row column) := by
  induction rows with
  | zero => cases above
  | succ rows ih =>
    rw [List.range_succ, List.flatMap_append, List.flatMap_singleton]
    rcases Nat.lt_succ_iff_lt_or_eq.mp above with earlier | rfl
    · have before : row * columns + column < rows * columns := rowMajor_lt earlier inside
      rw [List.getElem?_append_left (by rwa [length_flatMap_range]), ih earlier]
    · have after : row * columns ≤ row * columns + column := Nat.le_add_right _ _
      rw [List.getElem?_append_right (by rwa [length_flatMap_range]), length_flatMap_range,
        Nat.add_sub_cancel_left, List.getElem?_map, List.getElem?_range inside, Option.map_some]

/-- A full grid is determined by its shape and by what is read from it. -/
theorem Grid.ext_get? (full : g.IsFull) (full' : h.IsFull) (rows : g.rows = h.rows)
    (columns : g.columns = h.columns)
    (cells : ∀ row column, row < g.rows → column < g.columns →
      g.get? row column = h.get? row column) : g = h := by
  rcases g with ⟨m, n, xs⟩
  rcases h with ⟨_, _, ys⟩
  obtain rfl : m = _ := rows
  obtain rfl : n = _ := columns
  congr
  refine List.ext_getElem? fun i => ?_
  by_cases inside : i < m * n
  · have positive : 0 < n := Nat.pos_of_lt_mul_left inside
    have above : i / n < m := Nat.div_lt_of_lt_mul (by rwa [Nat.mul_comm])
    have same := cells (i / n) (i % n) above (Nat.mod_lt i positive)
    simp only [get?, above, Nat.mod_lt i positive, and_self, if_true, Nat.div_add_mod'] at same
    exact same
  · have outside : m * n ≤ i := Nat.not_lt.mp inside
    rw [List.getElem?_eq_none (Nat.le_trans (Nat.le_of_eq full) outside),
      List.getElem?_eq_none (Nat.le_trans (Nat.le_of_eq full') outside)]

theorem Grid.get?_map {f : α → β} {row column : Nat} :
    (g.map f).get? row column = (g.get? row column).map f := by
  simp only [get?, Grid.map, List.getElem?_map]
  split <;> rfl

/-- What is read from two grids combined. -/
theorem Grid.get?_zipBroadcast {f : α → β → γ} {missing : γ} {k : Grid β} {row column : Nat}
    (above : row < max g.rows k.rows) (inside : column < max g.columns k.columns) :
    (g.zipBroadcast f missing k).get? row column =
      some (match g.broadcastGet? row column, k.broadcastGet? row column with
        | some a, some b => f a b
        | _, _ => missing) := by
  have shape : row < (g.zipBroadcast f missing k).rows ∧
      column < (g.zipBroadcast f missing k).columns := ⟨above, inside⟩
  rw [get?, if_pos shape]
  exact getElem?_flatMap_range _ above inside

theorem Grid.map_map {f : β → γ} {before : α → β} :
    (g.map before).map f = g.map fun a => f (before a) :=
  congrArg (Grid.mk g.rows g.columns) List.map_map

theorem Grid.broadcastGet?_map {f : α → β} {row column : Nat} :
    (g.map f).broadcastGet? row column = (g.broadcastGet? row column).map f :=
  get?_map

/-- Combining cells on which a function has acted before. -/
theorem Grid.zipBroadcast_map {δ : Type} {f : δ → β → γ} {before : α → δ} {missing : γ}
    {k : Grid β} :
    (g.map before).zipBroadcast f missing k = g.zipBroadcast (fun a => f (before a)) missing k := by
  have shape : (g.map before).rows = g.rows ∧ (g.map before).columns = g.columns := ⟨rfl, rfl⟩
  simp only [zipBroadcast, broadcastGet?_map, shape]
  congr
  funext row
  congr
  funext column
  cases g.broadcastGet? row column <;> cases k.broadcastGet? row column <;> rfl

/-- Combining grids in the opposite order. -/
theorem Grid.zipBroadcast_flip {f : α → β → γ} {missing : γ} {k : Grid β} :
    k.zipBroadcast (fun b a => f a b) missing g = g.zipBroadcast f missing k := by
  simp only [zipBroadcast, Nat.max_comm k.rows, Nat.max_comm k.columns]
  congr
  funext row
  congr
  funext column
  cases g.broadcastGet? row column <;> cases k.broadcastGet? row column <;> rfl

/-- The grid of a single cell. -/
def Grid.single (x : α) : Grid α :=
  ⟨1, 1, [x]⟩

theorem Grid.isTable_single {x : α} (holds : P x) : (Grid.single x).IsTable P :=
  ⟨rfl, Nat.one_pos, Nat.one_pos, List.forall_mem_singleton.mpr holds⟩

/-- A single cell is stretched to every position. -/
theorem Grid.broadcastGet?_single {x : α} {row column : Nat} :
    (Grid.single x).broadcastGet? row column = some x :=
  rfl

/-- At the positions of a grid itself nothing is stretched. -/
theorem Grid.broadcastGet?_eq {row column : Nat} (above : row < g.rows)
    (inside : column < g.columns) : g.broadcastGet? row column = g.get? row column := by
  have index : ∀ {size i : Nat}, i < size → broadcastIndex size i = i := by
    intro size i less
    unfold broadcastIndex
    split
    · omega
    · rfl
  rw [broadcastGet?, index above, index inside]

/-- Combining a grid with a single cell is combining each of its cells with that cell. -/
theorem Grid.zipBroadcast_single {f : α → β → γ} {missing : γ} {y : β} (table : g.IsTable P) :
    g.zipBroadcast f missing (.single y) = g.map (f · y) := by
  have rows : max g.rows 1 = g.rows := Nat.max_eq_left table.rows
  have columns : max g.columns 1 = g.columns := Nat.max_eq_left table.columns
  have single : (Grid.single y).IsTable fun _ => True := isTable_single trivial
  have combined : (g.zipBroadcast f missing (.single y)).IsTable fun _ => True :=
    table.zipBroadcast single (fun _ _ _ _ => trivial) trivial
  have mapped : (g.map (f · y)).IsTable fun _ => True := table.map fun _ _ => trivial
  refine ext_get? combined.full mapped.full rows columns fun row column above inside => ?_
  have above' : row < g.rows := Nat.lt_of_lt_of_eq above rows
  have inside' : column < g.columns := Nat.lt_of_lt_of_eq inside columns
  obtain ⟨x, cell⟩ := exists_get? table.full above' inside'
  rw [get?_zipBroadcast above inside, broadcastGet?_eq above' inside', broadcastGet?_single,
    get?_map, cell, Option.map_some]

end Grids

/-! ## Values as grids -/

/-- A value as a grid; a scalar is a grid of one cell. -/
def Value.asGrid : Value → Grid Value
  | .array g => g
  | v => .single v

section Broadcasting

variable {op : Value → Value → Value} {x y : Value} {g : Grid Value}

theorem Value.exists_of_isArray (array : x.isArray) : ∃ g, x = .array g := by
  cases x with
  | array g => exact ⟨g, rfl⟩
  | null | bool _ | number _ | text _ | error _ => cases array

theorem Value.asGrid_scalar (scalar : ¬ x.isArray) : x.asGrid = .single x := by
  cases x with
  | array _ => exact absurd rfl scalar
  | null | bool _ | number _ | text _ | error _ => rfl

/-- A table of operations is applied to a scalar everywhere. -/
theorem Value.applyCells_scalar {operations : Grid (Value → Value)} (right : ¬ y.isError)
    (scalar : ¬ y.isArray) :
    applyCells operations y = .array (operations.map fun operation => operation y) := by
  cases y with
  | error _ => exact absurd rfl right
  | array _ => exact absurd rfl scalar
  | null | bool _ | number _ | text _ => rfl

/-- A scalar on the left is combined with every cell. -/
theorem Value.broadcast_scalar (left : ¬ x.isError) (scalar : ¬ x.isArray) :
    Value.broadcast op x (.array g) = .array (g.map (Value.broadcast op x)) := by
  cases x with
  | error _ => exact absurd rfl left
  | array _ => exact absurd rfl scalar
  | null | bool _ | number _ | text _ => exact mapScalars_array

/-- An operation that is extended to all values combines arrays position by position, a scalar being
an array of one cell. -/
theorem Value.broadcast_eq_zipBroadcast (left : ¬ x.isError) (right : ¬ y.isError)
    (array : x.isArray ∨ y.isArray) (table : x.asGrid.IsTable fun _ => True)
    (table' : y.asGrid.IsTable fun _ => True) :
    Value.broadcast op x y =
      .array (x.asGrid.zipBroadcast (Value.broadcast op) notAvailable y.asGrid) := by
  -- For two arrays this is how they are combined; a scalar is combined with each cell instead.
  by_cases there : y.isArray
  · obtain ⟨h, rfl⟩ := exists_of_isArray there
    by_cases here : x.isArray
    · obtain ⟨g, rfl⟩ := exists_of_isArray here
      rw [broadcast_array]
      exact congrArg Value.array Grid.zipBroadcast_map
    · rw [broadcast_scalar left here, asGrid_scalar here, ← Grid.zipBroadcast_flip,
        Grid.zipBroadcast_single table']
      rfl
  · obtain ⟨g, rfl⟩ := exists_of_isArray (array.resolve_right there)
    rw [broadcast_array, applyCells_scalar right there, asGrid_scalar there,
      Grid.zipBroadcast_single table, Grid.map_map]
    rfl

end Broadcasting

/-! ## Binary operations -/

/-- The binary operations on values. -/
inductive BinaryOperation where
  | plus
  | minus
  | times
  | dividedBy
  | power
  | relates (r : Relation)
  | relatesToPattern (r : Relation)
  | precededBy
  | followedBy
deriving DecidableEq, Repr

def BinaryOperation.apply : BinaryOperation → Value → Value → Value
  | .plus => Value.plus
  | .minus => Value.minus
  | .times => Value.times
  | .dividedBy => Value.dividedBy
  | .power => Value.power
  | .relates r => Value.relates r
  | .relatesToPattern r => Value.relatesToPattern r
  | .precededBy => Value.precededBy
  | .followedBy => Value.followedBy

/-- Each binary operation is one on scalars that has been extended to all values. -/
theorem BinaryOperation.exists_apply_eq_broadcast (op : BinaryOperation) :
    ∃ scalars, op.apply = Value.broadcast scalars := by
  cases op <;> exact ⟨_, rfl⟩

/-- The cell of a value at a position of a larger shape. A scalar is its own cell everywhere, and a
dimension of size one is read at its only index. -/
def Value.cellAt? : Value → Nat → Nat → Option Value
  | .array g, row, column =>
    g.get? (if g.rows = 1 then 0 else row) (if g.columns = 1 then 0 else column)
  | scalar, _, _ => some scalar

theorem Value.broadcastGet?_asGrid {x : Value} {row column : Nat} :
    x.asGrid.broadcastGet? row column = x.cellAt? row column := by
  cases x <;> rfl

/-- Whether a grid combines two values, scalars counting as grids of one cell: it has the larger of
their shapes, and at each position the operation on the cells that they have there, or `#N/A` if one
of them has none. -/
structure BinaryOperation.Combines (op : BinaryOperation) (x y : Value) (g : Grid Value) :
    Prop where
  rows : g.rows = max x.asGrid.rows y.asGrid.rows
  columns : g.columns = max x.asGrid.columns y.asGrid.columns
  full : g.IsFull
  both : ∀ {row column : Nat} {a b : Value}, row < g.rows → column < g.columns →
    x.cellAt? row column = some a → y.cellAt? row column = some b →
      g.get? row column = some (op.apply a b)
  either : ∀ {row column : Nat}, row < g.rows → column < g.columns →
    x.cellAt? row column = none ∨ y.cellAt? row column = none →
      g.get? row column = some (.ofErrorKind .notAvailable)

section Operations

variable {op : BinaryOperation} {x y : Value}

/-- The grid that broadcasting makes combines the values. -/
theorem BinaryOperation.combines_zipBroadcast (table : x.asGrid.IsTable fun _ => True)
    (table' : y.asGrid.IsTable fun _ => True) :
    op.Combines x y (x.asGrid.zipBroadcast op.apply Value.notAvailable y.asGrid) where
  rows := rfl
  columns := rfl
  full :=
    have combined : (x.asGrid.zipBroadcast op.apply Value.notAvailable y.asGrid).IsTable
        fun _ => True := table.zipBroadcast table' (fun _ _ _ _ => trivial) trivial
    combined.full
  both := by
    intro row column a b above inside here there
    rw [Grid.get?_zipBroadcast above inside, Value.broadcastGet?_asGrid,
      Value.broadcastGet?_asGrid, here, there]
  either := by
    intro row column above inside lacking
    rw [Grid.get?_zipBroadcast above inside, Value.broadcastGet?_asGrid,
      Value.broadcastGet?_asGrid]
    rcases lacking with lacking | lacking <;> rw [lacking]
    · rfl
    · cases x.cellAt? row column <;> rfl

theorem BinaryOperation.apply_eq_zipBroadcast (left : ¬ x.isError) (right : ¬ y.isError)
    (array : x.isArray ∨ y.isArray) (table : x.asGrid.IsTable fun _ => True)
    (table' : y.asGrid.IsTable fun _ => True) :
    op.apply x y = .array (x.asGrid.zipBroadcast op.apply Value.notAvailable y.asGrid) := by
  obtain ⟨scalars, apply⟩ := op.exists_apply_eq_broadcast
  rw [apply]
  exact Value.broadcast_eq_zipBroadcast left right array table table'

/-- Two values of which at least one is an array are combined cell by cell, and it makes no
difference whether a scalar is one or the array of it alone. -/
theorem BinaryOperation.apply_array (op : BinaryOperation) {x y : Value} (left : ¬ x.isError)
    (right : ¬ y.isError) (array : x.isArray ∨ y.isArray)
    (table : x.asGrid.IsTable fun _ => True) (table' : y.asGrid.IsTable fun _ => True) :
    ∃ g, op.apply x y = .array g ∧ op.Combines x y g ∧
      (¬ x.isArray → op.apply (.array (.single x)) y = .array g) ∧
      (¬ y.isArray → op.apply x (.array (.single y)) = .array g) := by
  refine ⟨_, apply_eq_zipBroadcast left right array table table', combines_zipBroadcast table table',
    fun scalar => ?_, fun scalar => ?_⟩
  · rw [Value.asGrid_scalar scalar]
    exact apply_eq_zipBroadcast (x := .array (.single x)) (fun h => nomatch h) right (.inl rfl)
      (Grid.isTable_single trivial) table'
  · rw [Value.asGrid_scalar scalar]
    exact apply_eq_zipBroadcast (y := .array (.single y)) left (fun h => nomatch h) (.inr rfl)
      table (Grid.isTable_single trivial)

/-- A row of two texts with a third one behind each of them. -/
theorem BinaryOperation.apply_array_row_text :
    ∃ g, Value.followedBy (.array ⟨1, 2, [.text "a", .text "b"]⟩) (.text "c") = .array g ∧
      g.rows = 1 ∧ g.columns = 2 ∧ g.get? 0 1 = some (.text "bc") ∧
      Value.followedBy (.array ⟨1, 2, [.text "a", .text "b"]⟩) (.array (.single (.text "c"))) =
        .array g := by
  obtain ⟨g, combined, cells, -, replaced⟩ := apply_array .followedBy
    (x := .array ⟨1, 2, [.text "a", .text "b"]⟩) (y := .text "c") (fun h => nomatch h)
    (fun h => nomatch h) (.inl rfl) ⟨rfl, by decide, by decide, fun _ _ => trivial⟩
    (Grid.isTable_single trivial)
  have rows : g.rows = 1 := cells.rows
  have columns : g.columns = 2 := cells.columns
  have above : 0 < g.rows := by omega
  have inside : 1 < g.columns := by omega
  exact ⟨g, combined, rows, columns, cells.both above inside rfl rfl,
    replaced (fun h => nomatch h)⟩

end Operations

end Spreadsheet
