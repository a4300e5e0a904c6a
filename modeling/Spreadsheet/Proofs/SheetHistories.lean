import Spreadsheet.Proofs.ReadBack
import Spreadsheet.Proofs.SparseCells

/-!
# Sheets however they were made

A sheet is a finite map from positions to cells, whatever was written in which order. It has what
was written last (`SheetHistory.get?_sheet`), its counts of rows and columns reach to its last cells
(`Sheet.isExtent_rowCount`, `Sheet.isExtent_columnCount`), and two sheets are equal when they have
equal cells (`Sheet.beq_iff`). All of this rests on one property of the rows: they end where their
cells do.
-/

namespace Spreadsheet

/-! ## Histories -/

/-- How a sheet was made: from nothing, from full rows or from a map, and by writing cells. -/
inductive SheetHistory where
  | empty
  | ofRows (rows : List (List Cell))
  | ofSparse (cells : SparseCells)
  | set (h : SheetHistory) (p : Position) (c : Cell)

namespace SheetHistory

def sheet : SheetHistory → Sheet
  | empty => .empty
  | ofRows rows => .ofRows rows
  | ofSparse cells => .ofSparse cells
  | set h p c => h.sheet.set p c

/-- What was written last at a position. -/
def cell? : SheetHistory → Position → Option Cell
  | empty, _ => none
  | ofRows rows, p => rows[p.row]?.bind fun row => row[p.column]?
  | ofSparse cells, p => cells.get? p
  | set h q c, p => if p = q then some c else h.cell? p

end SheetHistory

/-- A sheet made of full rows has their cells. -/
theorem Sheet.get?_ofRows {rows : List (List Cell)} {p : Position} :
    (ofRows rows).get? p = rows[p.row]?.bind fun row => row[p.column]? := by
  rcases p with ⟨r, column⟩
  rw [ofRows, get?_ofEntries]
  apply lookup_eq_of_mem_iff
  intro c
  simp only [List.mem_reverse, List.mem_flatMap, List.mem_map, Prod.exists,
    List.mk_mem_zipIdx_iff_getElem?, Prod.mk.injEq, Position.mk.injEq, Option.bind_eq_some_iff]
  constructor
  · rintro ⟨row, r, here, c, column, cell, ⟨rfl, rfl⟩, rfl⟩
    exact ⟨row, here, cell⟩
  · rintro ⟨row, here, cell⟩
    exact ⟨row, r, here, c, column, cell, ⟨rfl, rfl⟩, rfl⟩

/-- A sheet has at each position what was written last. -/
theorem SheetHistory.get?_sheet (h : SheetHistory) (p : Position) :
    h.sheet.get? p = h.cell? p := by
  induction h with
  | empty => exact Sheet.get?_empty
  | ofRows rows => exact Sheet.get?_ofRows
  | ofSparse cells => exact Sheet.get?_ofSparse
  | set h q c ih => rw [sheet, cell?, Sheet.get?_set, ih]

/-! ## Extents -/

/-- Whether a number is one more than the greatest number with a property, or zero if there is
none. -/
def IsExtent (P : Nat → Prop) (extent : Nat) : Prop :=
  (∀ i, P i → i < extent) ∧ (extent = 0 ∨ P (extent - 1))

section Extents

variable {s : Sheet} {row : List (Option Cell)} {r : Nat}

/-- A row that is not empty ends in a cell. -/
theorem Sheet.exists_last_cell (here : s.rows[r]? = some row) (nonempty : row ≠ []) :
    ∃ c, s.get? ⟨r, row.length - 1⟩ = some c := by
  have tight := s.tight.right row (List.mem_of_getElem? here)
  rw [List.getLast?_eq_getElem?] at tight
  have inside : row.length - 1 < row.length :=
    Nat.sub_one_lt_of_lt (List.length_pos_iff.mpr nonempty)
  cases content : row[row.length - 1]? with
  | none =>
    rw [List.getElem?_eq_none_iff] at content
    omega
  | some c? =>
    cases c? with
    | none => exact absurd content tight
    | some c => exact ⟨c, get?_eq_some_iff.mpr ⟨row, here, content⟩⟩

/-- A sheet has as many rows as it takes to reach its last cells. -/
theorem Sheet.isExtent_rowCount (s : Sheet) :
    IsExtent (fun r => ∃ column c, s.get? ⟨r, column⟩ = some c) s.rowCount := by
  constructor
  · rintro r ⟨column, c, cell⟩
    obtain ⟨row, here, -⟩ := get?_eq_some_iff.mp cell
    exact (List.getElem?_eq_some_iff.mp here).1
  · cases last : s.rows.getLast? with
    | none =>
      rw [List.getLast?_eq_none_iff] at last
      exact .inl (by rw [rowCount, last, List.length_nil])
    | some row =>
      have nonempty : row ≠ [] := by
        rintro rfl
        exact s.tight.bottom last
      rw [List.getLast?_eq_getElem?] at last
      obtain ⟨c, cell⟩ := exists_last_cell last nonempty
      exact .inr ⟨row.length - 1, c, cell⟩

/-- The count of columns is the length of the longest row. -/
theorem Sheet.columnCount_cases (s : Sheet) :
    s.rows = [] ∧ s.columnCount = 0 ∨
      (∃ row ∈ s.rows, row.length = s.columnCount) ∧
        ∀ row ∈ s.rows, row.length ≤ s.columnCount := by
  rw [columnCount, List.foldl_max, Nat.zero_max]
  cases longest : (s.rows.map List.length).max? with
  | none =>
    rw [List.max?_eq_none_iff, List.map_eq_nil_iff] at longest
    exact .inl ⟨longest, rfl⟩
  | some n =>
    rw [List.max?_eq_some_iff, List.forall_mem_map, List.mem_map] at longest
    exact .inr longest

/-- A sheet has as many columns as it takes to reach its last cells. -/
theorem Sheet.isExtent_columnCount (s : Sheet) :
    IsExtent (fun column => ∃ r c, s.get? ⟨r, column⟩ = some c) s.columnCount := by
  rcases s.columnCount_cases with ⟨empty, count⟩ | ⟨⟨row, member, count⟩, bound⟩
  · refine ⟨?_, .inl count⟩
    rintro column ⟨r, c, cell⟩
    obtain ⟨row, here, -⟩ := get?_eq_some_iff.mp cell
    rw [empty] at here
    cases here
  constructor
  · rintro column ⟨r, c, cell⟩
    obtain ⟨row, here, content⟩ := get?_eq_some_iff.mp cell
    exact Nat.lt_of_lt_of_le (List.getElem?_eq_some_iff.mp content).1
      (bound row (List.mem_of_getElem? here))
  · by_cases nonempty : row = []
    · exact .inl (by rw [← count, nonempty, List.length_nil])
    · obtain ⟨r, here⟩ := List.mem_iff_getElem?.mp member
      obtain ⟨c, cell⟩ := exists_last_cell here nonempty
      exact .inr ⟨r, c, count ▸ cell⟩

end Extents

/-! ## Equality -/

/-- Lists that do not end in a filler are equal when their places are, those beyond their ends
included. -/
theorem beq_iff_getElem?_getD {α : Type} [BEq α] {filler : α} {l l' : List α}
    (filled : filler == filler) (strict : ∀ x, x == filler → x = filler)
    (strict' : ∀ x, filler == x → x = filler) (ends : l.getLast? ≠ some filler)
    (ends' : l'.getLast? ≠ some filler) :
    l == l' ↔ ∀ i : Nat, l[i]?.getD filler == l'[i]?.getD filler := by
  rw [List.beq_eq_decide]
  constructor
  · intro equal i
    split at equal
    · rename_i length
      have places := of_decide_eq_true equal
      by_cases inside : i < l.length
      · rw [List.getElem?_eq_getElem inside, List.getElem?_eq_getElem (length ▸ inside)]
        exact places i inside
      · rw [List.getElem?_eq_none (Nat.le_of_not_lt inside),
          List.getElem?_eq_none (length ▸ Nat.le_of_not_lt inside)]
        exact filled
    · cases equal
  · intro same
    have length : l.length = l'.length :=
      length_eq_of_getElem?_getD (R := fun x y => x == y) strict strict' ends ends' same
    rw [dif_pos length]
    refine decide_eq_true fun i inside => ?_
    have here := same i
    rwa [List.getElem?_eq_getElem inside, List.getElem?_eq_getElem (length ▸ inside)] at here

/-- Sheets are equal when they have equal cells at all positions. -/
theorem Sheet.beq_iff {s t : Sheet} : s == t ↔ ∀ p, s.get? p == t.get? p := by
  have rows : s == t ↔ ∀ r : Nat, s.rows[r]?.getD [] == t.rows[r]?.getD [] :=
    beq_iff_getElem?_getD rfl (fun x => by cases x <;> simp) (fun x => by cases x <;> simp)
      s.tight.bottom t.tight.bottom
  have columns : ∀ r : Nat, s.rows[r]?.getD [] == t.rows[r]?.getD [] ↔
      ∀ column : Nat, s.get? ⟨r, column⟩ == t.get? ⟨r, column⟩ := by
    intro r
    simp only [get?_eq_getD]
    exact beq_iff_getElem?_getD rfl (fun x => by cases x <;> simp) (fun x => by cases x <;> simp)
      (s.getLast?_row_ne r) (t.getLast?_row_ne r)
  rw [rows]
  exact ⟨fun same p => (columns p.row).mp (same p.row) p.column,
    fun same r => (columns r).mpr fun column => same ⟨r, column⟩⟩

/-- A cell without a NaN is equal to itself. -/
theorem Cell.beq_self {c : Cell} (holds : c.Holds fun n => ¬ n.isNaN) : c == c := by
  rcases c with ⟨content, tag⟩
  have same : content == content := by
    rcases content with _ | (b | s | n)
    · rfl
    · exact beq_self_eq_true b
    · exact beq_self_eq_true s
    · exact Number.equal_self (holds n rfl)
  exact Bool.and_eq_true_iff.mpr ⟨same, beq_self_eq_true tag⟩

/-- A sheet without NaNs is equal to itself. -/
theorem Sheet.beq_self {s : Sheet}
    (numbers : ∀ p c, s.get? p = some c → c.Holds fun n => ¬ n.isNaN) : s == s := by
  refine beq_iff.mpr fun p => ?_
  cases cell : s.get? p with
  | none => rfl
  | some c => exact Cell.beq_self (numbers p c cell)

/-! ## Maps -/

/-- Whether a sheet is a finite map from positions to cells, in all that can be read of it. -/
structure Sheet.IsMapOf (s : Sheet) (cell? : Position → Option Cell) : Prop where
  cells : ∀ p, s.get? p = cell? p
  /-- The rows reach to the last one with a cell. -/
  rows : IsExtent (fun r => ∃ column c, cell? ⟨r, column⟩ = some c) s.rowCount
  /-- The columns reach to the last one with a cell. -/
  columns : IsExtent (fun column => ∃ r c, cell? ⟨r, column⟩ = some c) s.columnCount
  listed : ∀ p c, (p, c) ∈ s.entries ↔ cell? p = some c
  /-- Positions are listed row by row, none of them twice. -/
  ordered : s.entries.Pairwise fun e f => e.1.Precedes f.1

theorem Sheet.isMapOf_get? (s : Sheet) : s.IsMapOf s.get? where
  cells _ := rfl
  rows := s.isExtent_rowCount
  columns := s.isExtent_columnCount
  listed _ _ := mem_entries
  ordered := s.pairwise_entries

/-- A sheet is the finite map of what was written last at each position, however it was made. Two of
them are equal exactly if they have equal cells, and without NaNs a sheet is found again in its
map. -/
theorem SheetHistory.isMapOf_sheet (h h' : SheetHistory) :
    h.sheet.IsMapOf h.cell? ∧
      (h.sheet == h'.sheet ↔ ∀ p, h.sheet.get? p == h'.sheet.get? p) ∧
      (h.sheet = h'.sheet ↔ ∀ p, h.cell? p = h'.cell? p) ∧
      ((∀ p c, h.cell? p = some c → c.Holds fun n => ¬ n.isNaN) →
        Sheet.ofSparse h.sheet.toSparse == h.sheet) := by
  have cells : h.sheet.get? = h.cell? := funext h.get?_sheet
  have cells' : h'.sheet.get? = h'.cell? := funext h'.get?_sheet
  refine ⟨cells ▸ h.sheet.isMapOf_get?, Sheet.beq_iff, ?_, fun numbers => ?_⟩
  · rw [← cells, ← cells']
    exact ⟨fun same p => by rw [same], Sheet.ext_get?⟩
  · rw [Sheet.ofSparse_toSparse]
    exact Sheet.beq_self (cells ▸ numbers)

/-- A row written from its end, one of its cells twice, and the same row given as a whole. -/
theorem SheetHistory.isMapOf_sheet_orders :
    let number : Cell := .ofNumber (.ofInt 5)
    let h := ((empty.set ⟨1, 1⟩ (.ofText "draft")).set ⟨1, 0⟩ (.ofBool true)).set ⟨1, 1⟩ number
    let h' := ofRows [[], [.ofBool true, number]]
    h.sheet = h'.sheet ∧ h.sheet == h'.sheet ∧ h.sheet.rowCount = 2 ∧ h.sheet.columnCount = 2 ∧
      Sheet.ofSparse h.sheet.toSparse == h.sheet := by
  intro number h h'
  have same : ∀ p, h.cell? p = h'.cell? p := by
    rintro ⟨_ | _ | r, _ | _ | column⟩ <;> simp [h, h', cell?]
  have numbers : ∀ p c, h.cell? p = some c → c.Holds fun n => ¬ n.isNaN := by
    intro p c written
    simp only [h, cell?] at written
    split at written
    · obtain rfl := Option.some.inj written
      rintro n ⟨⟩
      exact Bool.false_ne_true
    split at written
    · obtain rfl := Option.some.inj written
      rintro n ⟨⟩
    · cases written
  obtain ⟨-, -, identical, again⟩ := isMapOf_sheet h h'
  have alike : h.sheet = h'.sheet := identical.mpr same
  have reflexive : h.sheet == h.sheet :=
    Sheet.beq_self fun p c written => numbers p c (h.get?_sheet p ▸ written)
  exact ⟨alike, alike ▸ reflexive, rfl, rfl, again numbers⟩

end Spreadsheet
