import Spreadsheet.Store.CellStore

/-!
References to ranges of cells. A reference holds no values: it reads each cell, whenever it is
asked, from the first of its layers that has one there.
-/

namespace Spreadsheet

/-- Stores read through one another; earlier ones hide later ones. -/
abbrev Layers := List CellStore

/-- The cell from the first layer that has one, even a blank one. -/
def lookupCell (layers : Layers) (unit sheet : String) (p : Position) : Option Cell :=
  layers.findSome? fun layer => layer.cell? unit sheet p

/-- The value of a position through layers; where no layer has a cell it is null. -/
def readCell (layers : Layers) (unit sheet : String) (p : Position) : Value :=
  match lookupCell layers unit sheet p with
  | some c => c.value
  | none => .null

/-- A reference to a range of a sheet. -/
structure Reference where
  unit : String
  sheet : String
  range : Range
  /-- Where the cells are read. -/
  layers : Layers

/-- References are equal when their targets are, wherever they read. -/
instance : BEq Reference where
  beq a b := a.unit == b.unit && a.sheet == b.sheet && a.range == b.range

def Reference.isCell (r : Reference) : Bool :=
  r.range.size = 1

def Reference.read (r : Reference) (p : Position) : Value :=
  readCell r.layers r.unit r.sheet p

/-- The value at an offset from the first corner, inside the range. -/
def Reference.valueAt? (r : Reference) (row column : Nat) : Option Value :=
  if row < r.range.rows ∧ column < r.range.columns then some (r.read (r.range.offset row column))
  else none

/-- The positions of the range with their values, row by row. -/
def Reference.entries (r : Reference) : List (Position × Value) :=
  r.range.positions.map fun p => (p, r.read p)

def Reference.values (r : Reference) : List Value :=
  r.range.positions.map r.read

def Reference.toGrid (r : Reference) : Grid Value :=
  ⟨r.range.rows, r.range.columns, r.values⟩

/-- A pass over the cells of a reference, row by row, in front of the cell of an index. -/
structure Reference.Cursor where
  reference : Reference
  index : Nat := 0

def Reference.cursor (r : Reference) : Reference.Cursor :=
  ⟨r, 0⟩

/-- The position in front of a cursor with its value, if there is one, and the cursor behind it. -/
def Reference.Cursor.next (c : Cursor) : Option (Position × Value) × Cursor :=
  let range := c.reference.range
  if range.size ≤ c.index then (none, c)
  else
    let p := range.offset (c.index / range.columns) (c.index % range.columns)
    (some (p, c.reference.read p), { c with index := c.index + 1 })

/-- How many positions are left. -/
def Reference.Cursor.remaining (c : Cursor) : Nat :=
  c.reference.range.size - c.index

/-- A lower and an upper bound for the number of positions left. -/
def Reference.Cursor.sizeHint (c : Cursor) : Nat × Option Nat :=
  (c.remaining, some c.remaining)

theorem Reference.Cursor.remaining_of_next {c rest : Cursor} {entry : Position × Value}
    (step : c.next = (some entry, rest)) : c.remaining = rest.remaining + 1 := by
  rw [next] at step
  grind [remaining]

/-- All positions left with their values, taken one by one. -/
def Reference.Cursor.collect (c : Cursor) : List (Position × Value) :=
  match _ : c.next with
  | (none, _) => []
  | (some entry, rest) => entry :: rest.collect
termination_by c.remaining
decreasing_by
  rename_i step
  rw [remaining_of_next step]
  exact Nat.lt_succ_self _

/-- The array whose rows are cut from the values that a pass yields. -/
def Reference.toArray (r : Reference) : Grid Value :=
  let values := r.cursor.collect.map (·.2)
  .ofRows .null (chunksOf r.range.columns values.length values)

/-- The sheet and the corners, counted from one. -/
def Reference.toText (r : Reference) : String :=
  let corner := fun row column => "R" ++ toString (row + 1) ++ "C" ++ toString (column + 1)
  r.sheet ++ "!" ++ corner r.range.top r.range.left ++ ":" ++ corner r.range.bottom r.range.right

instance : ToString Reference := ⟨Reference.toText⟩

end Spreadsheet
