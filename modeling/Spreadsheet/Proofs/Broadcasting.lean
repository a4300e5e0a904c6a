import Spreadsheet.Proofs.Pointwise

/-!
# Operations on nested values

Arrays may hold arrays, so what broadcasting does is proved by an induction on the cells of a value
(`Value.cellInduction`). An operation that is extended to all values may act on scalars first, on
either side (`Value.broadcast_mapScalars_left`, `Value.broadcast_mapScalars_right`), and may take its
operands in the opposite order, as long as no error stands in them (`Value.broadcast_swap`): which of
two errors wins does depend on the order.

Broadcasting two grids and then a third one is another matter. What is read from a combination is
what the operation makes of the cells there, provided that what stands for a missing cell absorbs
all others (`Grid.stretched_zipBroadcast`). Hence an associative operation of this kind stays
associative on tables of all shapes (`Grid.zipBroadcast_assoc`).
-/

namespace Spreadsheet

/-! ## Values by their cells -/

/-- Whether a value is neither an error nor an array. -/
def Value.IsPlain (v : Value) : Prop :=
  ¬ v.isError ∧ ¬ v.isArray

instance (v : Value) : Decidable v.IsPlain :=
  inferInstanceAs (Decidable (¬ v.isError ∧ ¬ v.isArray))

/-- Whether no error stands in a value, at any depth. -/
inductive Value.ErrorFree : Value → Prop
  | plain {v : Value} (plain : v.IsPlain) : ErrorFree v
  | array {g : Grid Value} (cells : ∀ v ∈ g.cells, v.ErrorFree) : ErrorFree (.array g)

/-- What holds of plain values and errors, and of an array when it holds of its cells, holds of all
values. -/
@[elab_as_elim] theorem Value.cellInduction {motive : Value → Prop}
    (plain : ∀ v, v.IsPlain → motive v) (error : ∀ e, motive (.error e))
    (array : ∀ g : Grid Value, (∀ v ∈ g.cells, motive v) → motive (.array g)) (v : Value) :
    motive v := by
  -- Values nest through grids and their lists of cells; the two further motives say so.
  refine @Value.rec motive (fun g => ∀ v ∈ g.cells, motive v) (fun cells => ∀ v ∈ cells, motive v)
    ?null ?bool ?number ?text error array (fun _ _ _ cells => cells) (List.forall_mem_nil _)
    (fun _ _ first rest => List.forall_mem_cons.mpr ⟨first, rest⟩) v
  case null => exact plain _ ⟨Bool.false_ne_true, Bool.false_ne_true⟩
  case bool => exact fun _ => plain _ ⟨Bool.false_ne_true, Bool.false_ne_true⟩
  case number => exact fun _ => plain _ ⟨Bool.false_ne_true, Bool.false_ne_true⟩
  case text => exact fun _ => plain _ ⟨Bool.false_ne_true, Bool.false_ne_true⟩

section Plain

variable {x : Value} {op : Value → Value → Value} {f : Value → Value}

theorem Value.IsPlain.mapScalars (plain : x.IsPlain) : Value.mapScalars f x = f x := by
  cases x with
  | error _ => exact absurd rfl plain.1
  | array _ => exact absurd rfl plain.2
  | null | bool _ | number _ | text _ => rfl

theorem Value.IsPlain.broadcast (plain : x.IsPlain) :
    Value.broadcast op x = Value.mapScalars (op x) := by
  cases x with
  | error _ => exact absurd rfl plain.1
  | array _ => exact absurd rfl plain.2
  | null | bool _ | number _ | text _ => rfl

end Plain

/-! ## Grids cell by cell -/

section Cells

variable {α β γ : Type} {g : Grid α} {k : Grid β}

theorem Grid.IsTable.imp {P Q : α → Prop} (table : g.IsTable P) (each : ∀ a, P a → Q a) :
    g.IsTable Q where
  full := table.full
  rows := table.rows
  columns := table.columns
  cells a member := each a (table.cells a member)

theorem Grid.map_congr {f f' : α → β} (same : ∀ a ∈ g.cells, f a = f' a) : g.map f = g.map f' :=
  congrArg (Grid.mk g.rows g.columns) (List.map_congr_left same)

theorem Grid.zipBroadcast_congr {f f' : α → β → γ} {missing : γ}
    (same : ∀ a ∈ g.cells, ∀ b ∈ k.cells, f a b = f' a b) :
    g.zipBroadcast f missing k = g.zipBroadcast f' missing k := by
  simp only [zipBroadcast]
  congr
  funext row
  congr
  funext column
  cases here : g.broadcastGet? row column with
  | none => rfl
  | some a =>
    cases there : k.broadcastGet? row column with
    | none => rfl
    | some b => exact same a (mem_cells_of_get? here) b (mem_cells_of_get? there)

/-- Combining with cells on which a function has acted before. -/
theorem Grid.zipBroadcast_map_right {δ : Type} {f : α → δ → γ} {before : β → δ} {missing : γ} :
    g.zipBroadcast f missing (k.map before) =
      g.zipBroadcast (fun a b => f a (before b)) missing k := by
  rw [← zipBroadcast_flip, zipBroadcast_map, zipBroadcast_flip]

end Cells

/-! ## Acting on scalars first -/

section Scalars

variable {x y : Value} {op : Value → Value → Value} {f f' : Value → Value}

/-- Two operations on the scalars inside a value, one after the other. -/
theorem Value.mapScalars_mapScalars (keeps : ∀ v, v.IsPlain → (f v).IsPlain) :
    mapScalars f' (mapScalars f x) = mapScalars (fun v => f' (f v)) x := by
  induction x using cellInduction with
  | plain v plain => rw [plain.mapScalars, plain.mapScalars, (keeps v plain).mapScalars]
  | error e => rfl
  | array g ih =>
    rw [mapScalars_array, mapScalars_array, mapScalars_array, Grid.map_map, Grid.map_congr ih]

/-- An operation on scalars may act on the left operand first. -/
theorem Value.broadcast_mapScalars_left (keeps : ∀ v, v.IsPlain → (f v).IsPlain) :
    Value.broadcast op (mapScalars f x) = Value.broadcast (fun v => op (f v)) x := by
  induction x using cellInduction with
  | plain v plain => rw [plain.mapScalars, (keeps v plain).broadcast, plain.broadcast]
  | error e => rfl
  | array g ih =>
    rw [mapScalars_array, broadcast_array, broadcast_array, Grid.map_map, Grid.map_congr ih]

theorem Value.applyCells_mapScalars {operations : Grid (Value → Value)}
    (keeps : ∀ v, v.IsPlain → (f v).IsPlain) :
    applyCells operations (mapScalars f y) =
      applyCells (operations.map fun operation v => operation (mapScalars f v)) y := by
  induction y using cellInduction with
  | plain v plain =>
    have kept := keeps v plain
    rw [applyCells_scalar plain.1 plain.2, Grid.map_map]
    simp only [plain.mapScalars, applyCells_scalar kept.1 kept.2]
  | error e => rfl
  | array g _ =>
    rw [mapScalars_array, applyCells, applyCells, Grid.zipBroadcast_map_right,
      Grid.zipBroadcast_map]

/-- An operation on scalars may act on the right operand first. -/
theorem Value.broadcast_mapScalars_right (keeps : ∀ v, v.IsPlain → (f v).IsPlain) :
    Value.broadcast op x (mapScalars f y) = Value.broadcast (fun v w => op v (f w)) x y := by
  induction x using cellInduction generalizing y with
  | plain v plain => rw [plain.broadcast, plain.broadcast, mapScalars_mapScalars keeps]
  | error e => rfl
  | array g ih =>
    rw [broadcast_array, broadcast_array, applyCells_mapScalars keeps, Grid.map_map]
    exact congrArg (applyCells · y) (Grid.map_congr fun v member => funext fun w => ih v member)

/-! ## Swapping operands -/

theorem Value.broadcast_arrays {g h : Grid Value} :
    Value.broadcast op (.array g) (.array h) =
      .array (g.zipBroadcast (Value.broadcast op) notAvailable h) := by
  rw [broadcast_array, applyCells, Grid.zipBroadcast_map]

/-- A plain value is combined with a value that holds no error in the same way from either side. -/
theorem Value.IsPlain.broadcast_swap (plain : x.IsPlain) (right : y.ErrorFree) :
    Value.broadcast op x y = Value.broadcast (fun w v => op v w) y x := by
  induction right with
  | plain here => rw [plain.broadcast, here.mapScalars, here.broadcast, plain.mapScalars]
  | array _ ih =>
    rw [broadcast_scalar plain.1 plain.2, broadcast_array, applyCells_scalar plain.1 plain.2,
      Grid.map_map, Grid.map_congr ih]

/-- An operation may take its operands in the opposite order if no error stands in them. -/
theorem Value.broadcast_swap (left : x.ErrorFree) (right : y.ErrorFree) :
    Value.broadcast op x y = Value.broadcast (fun w v => op v w) y x := by
  -- The right operand is taken apart in step with the left one.
  induction left generalizing y with
  | plain plain => exact plain.broadcast_swap right
  | @array g cells ih =>
    cases right with
    | plain plain => exact (plain.broadcast_swap (.array cells)).symm
    | @array h cells' =>
      have swapped : ∀ v ∈ g.cells, ∀ w ∈ h.cells,
          Value.broadcast op v w = Value.broadcast (fun w v => op v w) w v :=
        fun v here w there => ih v here (cells' w there)
      rw [broadcast_arrays, broadcast_arrays, Grid.zipBroadcast_congr swapped,
        ← Grid.zipBroadcast_flip]

end Scalars

/-! ## Three grids -/

/-- Whether an operation stays in a kind of cells, is associative there, and has a cell that absorbs
all others. -/
structure AssociativeWithZero {α : Type} (P : α → Prop) (f : α → α → α) (zero : α) : Prop where
  zero_mem : P zero
  closed : ∀ {a b}, P a → P b → P (f a b)
  zero_left : ∀ {a}, P a → f zero a = zero
  zero_right : ∀ {a}, P a → f a zero = zero
  assoc : ∀ {a b c}, P a → P b → P c → f (f a b) c = f a (f b c)

/-- What is read from a grid that is stretched, with `missing` for what it does not reach. -/
def Grid.stretched {α : Type} (missing : α) (g : Grid α) (row column : Nat) : α :=
  (g.broadcastGet? row column).getD missing

/-- A dimension that has been stretched may be stretched again. -/
theorem broadcastIndex_broadcastIndex {size larger i : Nat} (positive : 0 < size)
    (le : size ≤ larger) :
    broadcastIndex size (broadcastIndex larger i) = broadcastIndex size i := by
  unfold broadcastIndex
  split
  · rfl
  · rw [if_neg (by omega)]

/-- What both of two dimensions reach, the larger one reaches. -/
theorem broadcastIndex_lt_max {size size' i : Nat} (here : broadcastIndex size i < size)
    (there : broadcastIndex size' i < size') :
    broadcastIndex (max size size') i < max size size' := by
  unfold broadcastIndex at *
  split
  · omega
  · split at here <;> split at there <;> omega

section Stretching

variable {α : Type} {P : α → Prop} {f : α → α → α} {zero : α} {g h k : Grid α} {row column : Nat}

/-- Outside its stretched shape nothing is read from a grid. -/
theorem Grid.stretched_eq_missing
    (outside : ¬ (broadcastIndex g.rows row < g.rows ∧
      broadcastIndex g.columns column < g.columns)) : g.stretched zero row column = zero := by
  have read : g.broadcastGet? row column = none := if_neg outside
  rw [stretched, read, Option.getD_none]

theorem Grid.IsTable.stretched (table : g.IsTable P) (missing : P zero) :
    P (g.stretched zero row column) := by
  unfold Grid.stretched
  cases cell : g.broadcastGet? row column with
  | none => exact missing
  | some a => exact table.cells a (mem_cells_of_get? cell)

/-- A table may be stretched to a larger shape before it is stretched further. -/
theorem Grid.IsTable.stretched_broadcastIndex {rows columns : Nat} (table : g.IsTable P)
    (higher : g.rows ≤ rows) (wider : g.columns ≤ columns) :
    g.stretched zero (broadcastIndex rows row) (broadcastIndex columns column) =
      g.stretched zero row column := by
  rw [Grid.stretched, Grid.stretched, broadcastGet?, broadcastGet?,
    broadcastIndex_broadcastIndex table.rows higher,
    broadcastIndex_broadcastIndex table.columns wider]

/-- What is read from two grids combined is the operation on what is read from each of them. -/
theorem Grid.get?_zipBroadcast_stretched (laws : AssociativeWithZero P f zero) (left : g.IsTable P)
    (right : h.IsTable P) (above : row < max g.rows h.rows)
    (inside : column < max g.columns h.columns) :
    (g.zipBroadcast f zero h).get? row column =
      some (f (g.stretched zero row column) (h.stretched zero row column)) := by
  have here : P (g.stretched zero row column) := left.stretched laws.zero_mem
  have there : P (h.stretched zero row column) := right.stretched laws.zero_mem
  rw [get?_zipBroadcast above inside]
  unfold Grid.stretched at *
  cases read : g.broadcastGet? row column with
  | none => exact congrArg some (laws.zero_left there).symm
  | some a =>
    cases h.broadcastGet? row column with
    | none =>
      rw [read] at here
      exact congrArg some (laws.zero_right here).symm
    | some b => rfl

/-- So it is where the combination is stretched, and where it has no cell. -/
theorem Grid.stretched_zipBroadcast (laws : AssociativeWithZero P f zero) (left : g.IsTable P)
    (right : h.IsTable P) :
    (g.zipBroadcast f zero h).stretched zero row column =
      f (g.stretched zero row column) (h.stretched zero row column) := by
  by_cases inside : broadcastIndex (max g.rows h.rows) row < max g.rows h.rows ∧
      broadcastIndex (max g.columns h.columns) column < max g.columns h.columns
  · have read : (g.zipBroadcast f zero h).broadcastGet? row column =
        some (f (g.stretched zero (broadcastIndex (max g.rows h.rows) row)
            (broadcastIndex (max g.columns h.columns) column))
          (h.stretched zero (broadcastIndex (max g.rows h.rows) row)
            (broadcastIndex (max g.columns h.columns) column))) :=
      get?_zipBroadcast_stretched laws left right inside.1 inside.2
    rw [Grid.stretched, read, Option.getD_some,
      left.stretched_broadcastIndex (Nat.le_max_left _ _) (Nat.le_max_left _ _),
      right.stretched_broadcastIndex (Nat.le_max_right _ _) (Nat.le_max_right _ _)]
  · -- Outside the larger shape one of the two has no cell either.
    rw [stretched_eq_missing (g := g.zipBroadcast f zero h) inside]
    by_cases here : broadcastIndex g.rows row < g.rows ∧
        broadcastIndex g.columns column < g.columns
    · have lacking : h.stretched zero row column = zero := stretched_eq_missing fun there =>
        inside ⟨broadcastIndex_lt_max here.1 there.1, broadcastIndex_lt_max here.2 there.2⟩
      rw [lacking, laws.zero_right (left.stretched laws.zero_mem)]
    · rw [stretched_eq_missing here, laws.zero_left (right.stretched laws.zero_mem)]

theorem AssociativeWithZero.zipBroadcast (laws : AssociativeWithZero P f zero) (left : g.IsTable P)
    (right : h.IsTable P) : (g.zipBroadcast f zero h).IsTable P :=
  left.zipBroadcast right (fun _ _ => laws.closed) laws.zero_mem

/-- Combining tables of any shapes is associative if the operation is, and what stands for missing
cells absorbs. -/
theorem Grid.zipBroadcast_assoc (laws : AssociativeWithZero P f zero) (first : g.IsTable P)
    (second : h.IsTable P) (third : k.IsTable P) :
    (g.zipBroadcast f zero h).zipBroadcast f zero k =
      g.zipBroadcast f zero (h.zipBroadcast f zero k) := by
  have left := laws.zipBroadcast first second
  have right := laws.zipBroadcast second third
  have rows : max (max g.rows h.rows) k.rows = max g.rows (max h.rows k.rows) :=
    Nat.max_assoc _ _ _
  have columns : max (max g.columns h.columns) k.columns =
      max g.columns (max h.columns k.columns) := Nat.max_assoc _ _ _
  refine ext_get? (laws.zipBroadcast left third).full (laws.zipBroadcast first right).full
    rows columns fun row column above inside => ?_
  have above' : row < max g.rows (max h.rows k.rows) := Nat.lt_of_lt_of_eq above rows
  have inside' : column < max g.columns (max h.columns k.columns) :=
    Nat.lt_of_lt_of_eq inside columns
  rw [get?_zipBroadcast_stretched laws left third above inside,
    get?_zipBroadcast_stretched laws first right above' inside',
    stretched_zipBroadcast laws first second, stretched_zipBroadcast laws second third,
    laws.assoc (first.stretched laws.zero_mem) (second.stretched laws.zero_mem)
      (third.stretched laws.zero_mem)]

end Stretching

end Spreadsheet
