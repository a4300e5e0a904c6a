import Spreadsheet.Power

/-!
Positions of cells in a sheet, counted from zero, and rectangular ranges of them.
-/

namespace Spreadsheet

/-- A position in a sheet. -/
structure Position where
  row : Nat
  column : Nat
deriving DecidableEq, Repr

/-- Whether a position comes before another one row by row. -/
def Position.Precedes (p q : Position) : Prop :=
  p.row < q.row ∨ p.row = q.row ∧ p.column < q.column

theorem Position.Precedes.asymm {p q : Position} (before : p.Precedes q) : ¬ q.Precedes p := by
  simp only [Precedes] at before ⊢
  omega

/-- A range of positions, all rows and columns between two corners included. -/
structure Range where
  top : Nat
  left : Nat
  bottom : Nat
  right : Nat
deriving DecidableEq, Repr

def Range.between (p q : Position) : Range :=
  ⟨min p.row q.row, min p.column q.column, max p.row q.row, max p.column q.column⟩

def Range.single (p : Position) : Range :=
  .between p p

def Range.rows (r : Range) : Nat :=
  r.bottom - r.top + 1

def Range.columns (r : Range) : Nat :=
  r.right - r.left + 1

/-- The greatest number of cells that is told apart from larger ones. -/
def greatestCount : Nat := 2 ^ 64 - 1

/-- The number of cells of a rectangle, as far as it is counted. -/
def cellCount (rows columns : Nat) : Nat :=
  min (rows * columns) greatestCount

def Range.size (r : Range) : Nat :=
  cellCount r.rows r.columns

def Range.contains (r : Range) (p : Position) : Bool :=
  r.top ≤ p.row && p.row ≤ r.bottom && r.left ≤ p.column && p.column ≤ r.right

/-- The position at an offset from the first corner. -/
def Range.offset (r : Range) (row column : Nat) : Position :=
  ⟨r.top + row, r.left + column⟩

/-- The positions of the range, row by row. -/
def Range.positions (r : Range) : List Position :=
  (List.range r.size).map fun i => r.offset (i / r.columns) (i % r.columns)

end Spreadsheet
