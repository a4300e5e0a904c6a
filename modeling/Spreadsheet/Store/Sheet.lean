import Spreadsheet.Store.Cell
import Spreadsheet.Store.Position

/-!
Sheets of cells. A sheet keeps one list for each row, and grows when a cell is written outside of
it: rows and columns before the cell that hold nothing become gaps. Nothing is kept beyond the last
cell of a row or beyond the last row with a cell.
-/

namespace Spreadsheet

/-! ## Rows with gaps -/

/-- The row with a cell at a column, in place of what has been there. -/
def putInRow (row : List (Option Cell)) (column : Nat) (c : Cell) : List (Option Cell) :=
  (row.rightpad (column + 1) none).set column (some c)

/-- The rows with a cell at a position, in place of what has been there. -/
def putInRows (rows : List (List (Option Cell))) (p : Position) (c : Cell) :
    List (List (Option Cell)) :=
  (rows.rightpad (p.row + 1) []).modify p.row (putInRow · p.column c)

/-- Whether rows end where their cells do: the last row has a cell, and no row ends in a gap. -/
structure TightRows (rows : List (List (Option Cell))) : Prop where
  /-- The last row is not empty. -/
  bottom : rows.getLast? ≠ some []
  /-- No row ends in a gap. -/
  right : ∀ row ∈ rows, row.getLast? ≠ some none

section Growth

variable {row : List (Option Cell)} {rows : List (List (Option Cell))} {column i : Nat}
  {p : Position} {c : Cell}

theorem length_putInRow : (putInRow row column c).length = max (column + 1) row.length := by
  simp only [putInRow, List.rightpad, List.length_set, List.length_append, List.length_replicate]
  omega

/-- What a row has at a column after a cell has been put into it. -/
theorem getElem?_putInRow :
    (putInRow row column c)[i]? =
      if i = column then some (some c)
      else if i < row.length then row[i]?
      else if i < column then some none else none := by
  grind [putInRow, List.rightpad]

theorem length_putInRows : (putInRows rows p c).length = max (p.row + 1) rows.length := by
  simp only [putInRows, List.rightpad, List.length_modify, List.length_append,
    List.length_replicate]
  omega

/-- The rows after a cell has been put into one of them. -/
theorem getElem?_putInRows :
    (putInRows rows p c)[i]? =
      if i = p.row then some (putInRow (rows[i]?.getD []) p.column c)
      else if i < rows.length then rows[i]?
      else if i < p.row then some [] else none := by
  grind [putInRows, List.rightpad]

/-- A row that ends in a cell still does after another one has been put into it. -/
theorem getLast?_putInRow_ne (tight : row.getLast? ≠ some none) :
    (putInRow row column c).getLast? ≠ some none := by
  rw [List.getLast?_eq_getElem?] at tight ⊢
  rw [length_putInRow, getElem?_putInRow]
  grind

/-- Rows stay tight when a cell is put into one of them. -/
theorem TightRows.put (tight : TightRows rows) : TightRows (putInRows rows p c) where
  bottom := by
    have nonempty : putInRow (rows[p.row]?.getD []) p.column c ≠ [] := by
      rw [← List.length_pos_iff, length_putInRow]
      omega
    have bottom := tight.bottom
    rw [List.getLast?_eq_getElem?] at bottom ⊢
    rw [length_putInRows, getElem?_putInRows]
    grind
  right := by
    intro row member
    obtain ⟨i, here⟩ := List.mem_iff_getElem?.mp member
    rw [getElem?_putInRows] at here
    split at here
    · cases here
      apply getLast?_putInRow_ne
      cases old : rows[i]? with
      | none => simp
      | some row => exact tight.right row (List.mem_of_getElem? old)
    · split at here
      · exact tight.right row (List.mem_of_getElem? here)
      · split at here <;> cases here
        simp

end Growth

/-! ## Sheets -/

/-- A sheet of cells. -/
structure Sheet where
  rows : List (List (Option Cell)) := []
  tight : TightRows rows := by exact ⟨by simp, by simp⟩

def Sheet.empty : Sheet := {}

instance : Inhabited Sheet := ⟨.empty⟩

/-- Sheets are equal when their rows are, gaps included. -/
instance : BEq Sheet where
  beq s t := s.rows == t.rows

def Sheet.get? (s : Sheet) (p : Position) : Option Cell :=
  (s.rows[p.row]?.bind fun row => row[p.column]?).join

def Sheet.set (s : Sheet) (p : Position) (c : Cell) : Sheet :=
  ⟨putInRows s.rows p c, s.tight.put⟩

/-- The cells with their positions, row by row. -/
def Sheet.entries (s : Sheet) : List (Position × Cell) :=
  s.rows.zipIdx.flatMap fun (row, r) =>
    row.zipIdx.filterMap fun (c?, column) => c?.map fun c => (⟨r, column⟩, c)

/-- The sheet of cells given with their positions; of two at one position the later one stays. -/
def Sheet.ofEntries (entries : List (Position × Cell)) : Sheet :=
  entries.foldl (fun s entry => s.set entry.1 entry.2) .empty

def Sheet.ofRows (rows : List (List Cell)) : Sheet :=
  .ofEntries (rows.zipIdx.flatMap fun (row, r) => row.zipIdx.map fun (c, i) => (⟨r, i⟩, c))

def Sheet.rowCount (s : Sheet) : Nat :=
  s.rows.length

def Sheet.columnCount (s : Sheet) : Nat :=
  (s.rows.map List.length).foldl max 0

@[simp]
theorem Sheet.get?_empty {p : Position} : Sheet.empty.get? p = none :=
  rfl

/-- A cell that has been written is read back, and all others are as before. -/
theorem Sheet.get?_set {s : Sheet} {p q : Position} {c : Cell} :
    (s.set p c).get? q = if q = p then some c else s.get? q := by
  rcases p with ⟨r, column⟩
  rcases q with ⟨r', column'⟩
  simp only [get?, set, getElem?_putInRows, Position.mk.injEq]
  grind [getElem?_putInRow]

end Spreadsheet
