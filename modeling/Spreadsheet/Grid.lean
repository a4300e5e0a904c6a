/-!
Rectangular grids, stored row by row.

A grid announces a shape; `Grid.ofCells?` and `Grid.ofRows` build grids whose cells fill it. Reading
a position outside the shape, or one that the cells do not reach, gives nothing. Two grids are
combined with broadcasting: a dimension of size one stretches to the size of the other grid.
-/

namespace Spreadsheet

/-- A grid of cells. -/
structure Grid (α : Type) where
  rows : Nat
  columns : Nat
  cells : List α
deriving Repr

/-- The grid that the cells fill, if their number fits the shape. -/
def Grid.ofCells? {α : Type} (rows columns : Nat) (cells : List α) : Option (Grid α) :=
  if rows * columns = cells.length then some ⟨rows, columns, cells⟩ else none

/-- The grid of rows, short ones filled up. -/
def Grid.ofRows {α : Type} (filler : α) (rows : List (List α)) : Grid α :=
  let columns := (rows.map List.length).foldl max 0
  ⟨rows.length, columns, rows.flatMap fun row => row.rightpad columns filler⟩

def Grid.filled {α : Type} (rows columns : Nat) (x : α) : Grid α :=
  ⟨rows, columns, .replicate (rows * columns) x⟩

def Grid.get? {α : Type} (g : Grid α) (row column : Nat) : Option α :=
  if row < g.rows ∧ column < g.columns then g.cells[row * g.columns + column]? else none

/-- The cells with their positions, row by row. -/
def Grid.entries {α : Type} (g : Grid α) : List (Nat × Nat × α) :=
  let columns := max g.columns 1
  g.cells.zipIdx.map fun (x, i) => (i / columns, i % columns, x)

/-- The cells of `cells` in pieces of `width`, the last of which may be shorter, at most `fuel` of
them. -/
def chunksOf {α : Type} (width : Nat) : Nat → List α → List (List α)
  | 0, _ => []
  | fuel + 1, cells =>
    if cells.isEmpty then [] else cells.take width :: chunksOf width fuel (cells.drop width)

def Grid.toRows {α : Type} (g : Grid α) : List (List α) :=
  if g.columns = 0 then .replicate g.rows [] else chunksOf g.columns g.cells.length g.cells

def Grid.map {α β : Type} (f : α → β) (g : Grid α) : Grid β :=
  ⟨g.rows, g.columns, g.cells.map f⟩

/-- The index along a dimension of a given size; a dimension of size one has only the first. -/
def broadcastIndex (size i : Nat) : Nat :=
  if size = 1 then 0 else i

/-- The cell at a position of a larger grid to which this one is stretched. -/
def Grid.broadcastGet? {α : Type} (g : Grid α) (row column : Nat) : Option α :=
  g.get? (broadcastIndex g.rows row) (broadcastIndex g.columns column)

/-- Combines two grids position by position over the larger of their shapes; a position that either
of them does not reach gets `missing`. -/
def Grid.zipBroadcast {α β γ : Type} (f : α → β → γ) (missing : γ) (g : Grid α) (h : Grid β) :
    Grid γ :=
  let rows := max g.rows h.rows
  let columns := max g.columns h.columns
  let combine := fun row column =>
    match g.broadcastGet? row column, h.broadcastGet? row column with
    | some a, some b => f a b
    | _, _ => missing
  ⟨rows, columns, (List.range rows).flatMap fun row => (List.range columns).map (combine row)⟩

end Spreadsheet
