import Spreadsheet.Proofs.StoredForms

/-!
# Sparse cells

A sheet is stored as a map from rows to maps from columns to cells. A map is written and read
position by position as a sheet is (`SparseCells.get?_set`), so a sheet is found again in its map
(`Sheet.ofSparse_toSparse`).
-/

namespace Spreadsheet

/-! ## Maps of cells -/

/-- Cells by rows and columns. A row may be empty. -/
structure SparseCells where
  rows : Std.TreeMap Nat (Std.TreeMap Nat Cell) := ∅

namespace SparseCells

variable {cells : SparseCells} {p q : Position} {c : Cell}

def get? (cells : SparseCells) (p : Position) : Option Cell :=
  cells.rows[p.row]?.bind fun row => row[p.column]?

/-- The map with a cell at a position, in place of what has been there. -/
def set (cells : SparseCells) (p : Position) (c : Cell) : SparseCells :=
  ⟨cells.rows.alter p.row fun row => some ((row.getD ∅).insert p.column c)⟩

/-- The rows with their cells, both in the order of their numbers. -/
def groups (cells : SparseCells) : List (Nat × List (Nat × Cell)) :=
  cells.rows.toList.map fun (row, columns) => (row, columns.toList)

/-- The cells with their positions, row by row. -/
def entries (cells : SparseCells) : List (Position × Cell) :=
  cells.groups.flatMap groupEntries

theorem get?_empty : get? {} p = none := by
  rw [get?, Std.TreeMap.getElem?_emptyc, Option.bind_none]

/-- A cell that has been written is read back, and all others are as before. -/
theorem get?_set : (cells.set p c).get? q = if q = p then some c else cells.get? q := by
  rcases p with ⟨r, column⟩
  rcases q with ⟨r', column'⟩
  simp only [get?, set, Std.TreeMap.getElem?_alter, Nat.compare_eq_eq, Position.mk.injEq]
  by_cases row : r = r'
  · subst row
    simp only [if_true, Option.bind_some, Std.TreeMap.getElem?_insert, Nat.compare_eq_eq, true_and]
    by_cases same : column = column'
    · rw [if_pos same, if_pos same.symm]
    · rw [if_neg same, if_neg (Ne.symm same)]
      cases cells.rows[r]? with
      | none => rw [Option.getD_none, Std.TreeMap.getElem?_emptyc, Option.bind_none]
      | some columns => rw [Option.getD_some, Option.bind_some]
  · rw [if_neg row, if_neg fun both => row both.1.symm]

/-- The entries of a map are its cells. -/
theorem mem_entries : (p, c) ∈ cells.entries ↔ cells.get? p = some c := by
  rcases p with ⟨r, column⟩
  simp only [entries, groups, groupEntries, get?, List.mem_flatMap, List.mem_map, Prod.exists,
    Option.bind_eq_some_iff, Prod.mk.injEq, Position.mk.injEq]
  constructor
  · rintro ⟨r, _, ⟨r, columns, row, rfl, rfl⟩, column, c, cell, ⟨rfl, rfl⟩, rfl⟩
    exact ⟨columns, Std.TreeMap.mem_toList_iff_getElem?_eq_some.mp row,
      Std.TreeMap.mem_toList_iff_getElem?_eq_some.mp cell⟩
  · rintro ⟨columns, row, cell⟩
    exact ⟨r, columns.toList,
      ⟨r, columns, Std.TreeMap.mem_toList_iff_getElem?_eq_some.mpr row, rfl, rfl⟩, column, c,
      Std.TreeMap.mem_toList_iff_getElem?_eq_some.mpr cell, ⟨rfl, rfl⟩, rfl⟩

end SparseCells

/-! ## Sheets from maps and maps from sheets -/

/-- The sheet with the cells of a map. -/
def Sheet.ofSparse (cells : SparseCells) : Sheet :=
  .ofEntries cells.entries

/-- The map of the cells of a sheet. -/
def Sheet.toSparse (s : Sheet) : SparseCells :=
  s.entries.foldl (fun cells entry => cells.set entry.1 entry.2) {}

section Conversion

variable {s : Sheet} {cells : SparseCells} {p : Position}

theorem Sheet.get?_ofSparse : (ofSparse cells).get? p = cells.get? p := by
  rw [ofSparse, get?_ofEntries]
  apply lookup_eq_of_mem_iff
  intro c
  rw [List.mem_reverse, SparseCells.mem_entries]

theorem Sheet.get?_toSparse : s.toSparse.get? p = s.get? p := by
  rw [toSparse, get_foldl fun _ _ _ _ => SparseCells.get?_set, SparseCells.get?_empty,
    Option.or_none]
  apply lookup_eq_of_mem_iff
  intro c
  rw [List.mem_reverse, mem_entries]

/-- A sheet is found again in its map. -/
theorem Sheet.ofSparse_toSparse : ofSparse s.toSparse = s :=
  ext_get? fun _ => get?_ofSparse.trans get?_toSparse

end Conversion

end Spreadsheet
