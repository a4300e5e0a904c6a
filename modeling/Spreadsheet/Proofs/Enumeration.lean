import Spreadsheet.Proofs.Locality
import Spreadsheet.Proofs.Overlay

/-!
# Enumeration of references

A reference shows its cells in several ways: a cursor that turns an index into a position, the list
of all positions, single values at offsets from the first corner, and an array cut into rows. They
all show the positions of one rectangle (`Reference.enumerates_rectangle`).

The cursor is the list taken entry by entry: `Reference.Cursor.next_cases` is its step, and
`Reference.Cursor.collect_advance` says what is left after any number of them.
-/

namespace Spreadsheet

/-! ## Positions -/

section Positions

variable {r : Range} {p : Position}

/-- Offsets lie inside a range just if they are less than its numbers of rows and columns. -/
theorem Range.contains_offset_iff (ordered : r.IsOrdered) {row column : Nat} :
    r.contains (r.offset row column) ↔ row < r.rows ∧ column < r.columns := by
  refine ⟨fun inside => ?_, fun inside => contains_offset ordered inside.1 inside.2⟩
  simp only [contains, Bool.and_eq_true, decide_eq_true_eq] at inside
  simp only [offset] at inside
  obtain ⟨vertical, horizontal⟩ := ordered
  simp only [rows, columns]
  omega

/-- A position inside a range lies at its offset from the first corner. -/
theorem Range.offset_of_contains (inside : r.contains p) :
    r.offset (p.row - r.top) (p.column - r.left) = p := by
  simp only [contains, Bool.and_eq_true, decide_eq_true_eq] at inside
  rw [offset, Nat.add_sub_cancel' inside.1.1.1, Nat.add_sub_cancel' inside.1.2]

theorem Range.length_positions (r : Range) : r.positions.length = r.size := by
  rw [positions, List.length_map, List.length_range]

theorem Range.getElem?_positions {i : Nat} (counted : i < r.size) :
    r.positions[i]? = some (r.offset (i / r.columns) (i % r.columns)) := by
  rw [positions, List.getElem?_map, List.getElem?_range counted, Option.map_some]

/-- The positions of a range that can be counted are those that it contains. -/
theorem Range.mem_positions (ordered : r.IsOrdered)
    (countable : r.rows * r.columns ≤ greatestCount) : p ∈ r.positions ↔ r.contains p := by
  refine ⟨contains_of_mem_positions ordered, fun inside => ?_⟩
  have offset := offset_of_contains inside
  rw [← offset] at inside
  obtain ⟨above, beside⟩ := (contains_offset_iff ordered).mp inside
  have counted : (p.row - r.top) * r.columns + (p.column - r.left) < r.size :=
    Nat.lt_of_lt_of_eq (rowMajor_lt above beside) (size_eq countable).symm
  have index := rowMajor_div_mod (p.row - r.top) beside
  have here := getElem?_positions counted
  rw [index.1, index.2, offset] at here
  exact List.mem_of_getElem? here

/-- The positions of a range are listed row by row. -/
theorem Range.pairwise_positions (r : Range) : r.positions.Pairwise Position.Precedes := by
  rw [positions, List.pairwise_map]
  refine List.pairwise_lt_range.imp fun {i j} before => ?_
  have first := Nat.div_add_mod' i r.columns
  have second := Nat.div_add_mod' j r.columns
  rcases Nat.lt_or_eq_of_le (Nat.div_le_div_right (c := r.columns) (Nat.le_of_lt before)) with
    above | same
  · exact .inl (Nat.add_lt_add_left above r.top)
  · rw [same] at first
    exact .inr ⟨congrArg (r.top + ·) same, Nat.add_lt_add_left (by omega) r.left⟩

end Positions

/-! ## Cursors -/

/-- The cursor after a number of steps; at the end of the range it stays where it is. -/
def Reference.Cursor.advance : Nat → Cursor → Cursor
  | 0, c => c
  | n + 1, c => advance n c.next.2

section Cursors

variable {r : Reference} {c : Reference.Cursor}

theorem Reference.length_entries (r : Reference) : r.entries.length = r.range.size := by
  rw [entries, List.length_map, r.range.length_positions]

/-- A step yields the entry of the index and moves on, or finds the end and stays there. -/
theorem Reference.Cursor.next_cases (c : Cursor) :
    (c.reference.entries.length ≤ c.index ∧ c.next = (none, c)) ∨
      ∃ entry, c.reference.entries[c.index]? = some entry ∧
        c.next = (some entry, ⟨c.reference, c.index + 1⟩) := by
  rw [length_entries, next]
  split
  next done => exact .inl ⟨done, rfl⟩
  next more =>
    refine .inr ⟨_, ?_, rfl⟩
    rw [entries, List.getElem?_map, Range.getElem?_positions (Nat.lt_of_not_le more),
      Option.map_some]

/-- A cursor yields the entries from its index on. -/
theorem Reference.Cursor.collect_eq (c : Cursor) :
    c.collect = c.reference.entries.drop c.index := by
  fun_induction collect c with
  | case1 c rest step =>
    rcases c.next_cases with ⟨done, -⟩ | ⟨entry, -, more⟩
    · exact (List.drop_eq_nil_of_le done).symm
    · rw [more] at step
      cases step
  | case2 c entry rest step ih =>
    rcases c.next_cases with ⟨-, done⟩ | ⟨here, found, more⟩
    · rw [done] at step
      cases step
    · rw [more] at step
      cases step
      obtain ⟨bound, rfl⟩ := List.getElem?_eq_some_iff.mp found
      rw [ih, List.drop_eq_getElem_cons bound]

/-- After a number of steps a cursor has that many entries less in front of it. -/
theorem Reference.Cursor.collect_advance (c : Cursor) (n : Nat) :
    (c.advance n).collect = c.collect.drop n := by
  induction n generalizing c with
  | zero => rfl
  | succ n ih =>
    rw [advance, ih, collect_eq, collect_eq]
    rcases c.next_cases with ⟨done, stays⟩ | ⟨entry, -, moves⟩
    · rw [stays, List.drop_eq_nil_of_le done, List.drop_nil, List.drop_nil]
    · rw [moves, List.drop_drop, List.drop_drop, Nat.add_assoc, Nat.add_comm 1 n]

/-- The next entry of a cursor is the first of those that it yields. -/
theorem Reference.Cursor.next_fst (c : Cursor) : c.next.1 = c.collect.head? := by
  rw [collect_eq, List.head?_drop]
  rcases c.next_cases with ⟨done, stays⟩ | ⟨entry, found, moves⟩
  · rw [stays, List.getElem?_eq_none done]
  · rw [moves, found]

/-- The bounds are exact: both are the number of entries that are left. -/
theorem Reference.Cursor.sizeHint_eq (c : Cursor) :
    c.sizeHint = (c.collect.length, some c.collect.length) := by
  rw [sizeHint, remaining, collect_eq, List.length_drop, length_entries]

theorem Reference.collect_cursor (r : Reference) : r.cursor.collect = r.entries :=
  r.cursor.collect_eq

end Cursors

/-! ## Rows of an array -/

section Rows

variable {α : Type} {width rows fuel : Nat} {cells : List α}

/-- Cells that fill a number of rows are cut into these rows, none of them short. -/
theorem chunksOf_of_length (positive : 0 < width) (full : cells.length = rows * width)
    (enough : rows ≤ fuel) :
    (chunksOf width fuel cells).length = rows ∧
      (∀ row ∈ chunksOf width fuel cells, row.length = width) ∧
      (chunksOf width fuel cells).flatten = cells := by
  induction rows generalizing fuel cells with
  | zero =>
    obtain rfl : cells = [] := List.length_eq_zero_iff.mp (by rw [full, Nat.zero_mul])
    cases fuel <;> exact ⟨rfl, fun _ member => absurd member List.not_mem_nil, rfl⟩
  | succ rows ih =>
    obtain ⟨fuel, rfl⟩ : ∃ steps, fuel = steps + 1 := ⟨fuel - 1, by omega⟩
    rw [Nat.succ_mul] at full
    have nonempty : ¬ cells.isEmpty := by
      rw [List.isEmpty_iff_length_eq_zero]
      omega
    have later : (cells.drop width).length = rows * width := by
      rw [List.length_drop]
      omega
    obtain ⟨count, widths, together⟩ := ih later (Nat.le_of_succ_le_succ enough)
    rw [chunksOf, if_neg nonempty]
    refine ⟨?_, List.forall_mem_cons.mpr ⟨?_, widths⟩, ?_⟩
    · rw [List.length_cons, count]
    · rw [List.length_take]
      omega
    · rw [List.flatten_cons, together, List.take_append_drop]

theorem foldl_max_of_forall_eq {sizes : List Nat} {size : Nat} (same : ∀ n ∈ sizes, n = size) :
    sizes.foldl max size = size := by
  induction sizes with
  | nil => rfl
  | cons n sizes ih =>
    rw [List.forall_mem_cons] at same
    rw [List.foldl_cons, same.1, Nat.max_self, ih same.2]

/-- Rows of one width, of which there is at least one, make the grid of their cells. -/
theorem Grid.ofRows_of_length {filler : α} {pieces : List (List α)} (nonempty : pieces ≠ [])
    (widths : ∀ row ∈ pieces, row.length = width) :
    Grid.ofRows filler pieces = ⟨pieces.length, width, pieces.flatten⟩ := by
  have columns : (pieces.map List.length).foldl max 0 = width := by
    obtain ⟨first, others, rfl⟩ := List.exists_cons_of_ne_nil nonempty
    rw [List.forall_mem_cons] at widths
    rw [List.map_cons, List.foldl_cons, widths.1, Nat.zero_max]
    exact foldl_max_of_forall_eq (List.forall_mem_map.mpr widths.2)
  have filled : pieces.map (fun row => row.rightpad width filler) = pieces := by
    refine (List.map_congr_left fun row member => ?_).trans (List.map_id pieces)
    rw [List.rightpad, widths row member, Nat.sub_self, List.replicate_zero, List.append_nil, id]
  rw [Grid.ofRows, columns, List.flatMap_def, filled]

end Rows

/-! ## Values and arrays -/

section Values

variable {r : Reference}

/-- The number of cells that a reference yields. -/
theorem Reference.length_values (r : Reference) : r.values.length = r.range.size := by
  rw [values, List.length_map, r.range.length_positions]

/-- There is no value just at the offsets that lie outside the range. -/
theorem Reference.valueAt?_eq_none_iff (ordered : r.range.IsOrdered) {row column : Nat} :
    r.valueAt? row column = none ↔ ¬ r.range.contains (r.range.offset row column) := by
  rw [Range.contains_offset_iff ordered, valueAt?]
  split
  next inside => exact iff_of_false (Option.some_ne_none _) (not_not_intro inside)
  next outside => exact iff_of_true rfl outside

/-- The value of an entry is the one at its offset from the first corner. -/
theorem Reference.valueAt?_of_mem_entries (ordered : r.range.IsOrdered) {p : Position} {v : Value}
    (member : (p, v) ∈ r.entries) :
    r.valueAt? (p.row - r.range.top) (p.column - r.range.left) = some v := by
  obtain ⟨q, listed, same⟩ := List.mem_map.mp member
  cases same
  have inside := Range.contains_of_mem_positions ordered listed
  have offset := Range.offset_of_contains inside
  rw [← offset, Range.contains_offset_iff ordered] at inside
  rw [valueAt?, if_pos inside, offset]

/-- The array that a reference is read into is the one whose rows are cut from its cells, as long as
these can be counted. -/
theorem Reference.toGrid_eq_ofRows (countable : (Operand.reference r).IsCountable) :
    r.toGrid = .ofRows .null (chunksOf r.range.columns r.values.length r.values) := by
  have positive : 0 < r.range.columns := Nat.succ_pos _
  have full : r.values.length = r.range.rows * r.range.columns := toGrid_isFull countable
  have enough : r.range.rows ≤ r.values.length :=
    full ▸ Nat.le_mul_of_pos_right r.range.rows positive
  obtain ⟨count, widths, together⟩ := chunksOf_of_length positive full enough
  have nonempty : chunksOf r.range.columns r.values.length r.values ≠ [] := by
    rw [← List.length_pos_iff, count]
    exact Nat.succ_pos _
  rw [Grid.ofRows_of_length nonempty widths, count, together, toGrid]

/-- The array cut from the values of a pass is the one that is read at once. -/
theorem Reference.toArray_eq_toGrid (countable : (Operand.reference r).IsCountable) :
    r.toArray = r.toGrid := by
  have values : r.entries.map (·.2) = r.values := by
    rw [entries, List.map_map]
    rfl
  rw [toArray, collect_cursor, values]
  exact (toGrid_eq_ofRows countable).symm

/-- The entries of that grid are those of a pass, whose positions are taken from the first corner. -/
theorem Reference.entries_toGrid (r : Reference) :
    r.toGrid.entries = r.cursor.collect.map fun (p, v) =>
      (p.row - r.range.top, p.column - r.range.left, v) := by
  have columns : max r.toGrid.columns 1 = r.range.columns := Nat.max_eq_left (Nat.le_add_left 1 _)
  rw [collect_cursor, entries, Grid.entries, columns, toGrid, values, List.map_map]
  refine List.ext_getElem? fun i => ?_
  rw [List.getElem?_map, List.getElem?_zipIdx, List.getElem?_map, List.getElem?_map]
  by_cases counted : i < r.range.size
  · rw [Range.getElem?_positions counted]
    simp [Range.offset]
  · rw [List.getElem?_eq_none (by rw [Range.length_positions]; omega)]
    rfl

end Values

/-- What a reference to a rectangle enumerates, as long as its cells can be counted. A cursor yields
the positions inside the rectangle with the values at their offsets, each once and row by row, and
after any number of steps it says exactly how many are left. There is no value just at the offsets
outside the rectangle. The array that is cut from the values has the shape of the rectangle and the
value of each offset. -/
theorem Reference.enumerates_rectangle {unit sheet : String} {layers : Layers} {p q : Position}
    (countable : (Range.between p q).rows * (Range.between p q).columns ≤ greatestCount) :
    let range := Range.between p q
    let r : Reference := ⟨unit, sheet, range, layers⟩
    let cells := r.cursor.collect
    let count := range.rows * range.columns
    (∀ p, p ∈ cells.map Prod.fst ↔ range.contains p) ∧
      (cells.map Prod.fst).Pairwise Position.Precedes ∧ (cells.map Prod.fst).Nodup ∧
      cells.length = count ∧
      (∀ n, (r.cursor.advance n).next.1 = cells[n]? ∧
        (r.cursor.advance n).collect = cells.drop n ∧
        (r.cursor.advance n).sizeHint = (count - n, some (count - n))) ∧
      (∀ p v, (p, v) ∈ cells → r.valueAt? (p.row - range.top) (p.column - range.left) = some v) ∧
      (∀ row column, r.valueAt? row column = none ↔ ¬ range.contains (range.offset row column)) ∧
      (r.toArray.rows = range.rows ∧ r.toArray.columns = range.columns ∧
        ∀ row column, r.toArray.get? row column = r.valueAt? row column) ∧
      cells = r.entries ∧ r.toArray = r.toGrid := by
  intro range r cells count
  have ordered : range.IsOrdered := Range.isOrdered_between
  have listed : cells = r.entries := r.collect_cursor
  have positions : cells.map Prod.fst = range.positions := by
    rw [listed, entries, List.map_map]
    exact List.map_id _
  have row_by_row : (cells.map Prod.fst).Pairwise Position.Precedes :=
    positions ▸ range.pairwise_positions
  have length : cells.length = count := by
    rw [listed, length_entries]
    exact Range.size_eq countable
  have array : r.toArray = r.toGrid := toArray_eq_toGrid countable
  refine ⟨fun p => ?_, row_by_row, row_by_row.imp fun before same => ?_, length, fun n => ?_,
    fun p v member => ?_, fun row column => valueAt?_eq_none_iff ordered, ?_, listed, array⟩
  · rw [positions]
    exact Range.mem_positions ordered countable
  · exact (same ▸ before).asymm (same ▸ before)
  · have left : (r.cursor.advance n).collect = cells.drop n := r.cursor.collect_advance n
    refine ⟨?_, left, ?_⟩
    · rw [Cursor.next_fst, left, List.head?_drop]
    · rw [Cursor.sizeHint_eq, left, List.length_drop, length]
  · exact valueAt?_of_mem_entries ordered (listed ▸ member)
  · rw [array]
    exact ⟨rfl, rfl, fun row column => get?_toGrid (r := r) countable⟩

/-- Two rows of three cells between corners that are given from right to left, one of the cells
filled. -/
theorem Reference.enumerates_rectangle_of_two_rows :
    let data := ({} : CellStore).setCell "book" "one" ⟨3, 1⟩ (.ofBool true)
    let r : Reference := ⟨"book", "one", .between ⟨2, 2⟩ ⟨3, 0⟩, [data]⟩
    r.range.rows * r.range.columns ≤ greatestCount ∧
      r.cursor.collect.length = 6 ∧ (r.cursor.advance 4).sizeHint = (2, some 2) ∧
      (⟨3, 0⟩ : Position) ∈ r.cursor.collect.map Prod.fst ∧
      (⟨4, 0⟩ : Position) ∉ r.cursor.collect.map Prod.fst ∧
      r.toArray.get? 1 1 = some (.bool true) ∧ r.toArray.get? 2 0 = none := by
  intro data r
  have countable : r.range.rows * r.range.columns ≤ greatestCount := by decide
  obtain ⟨inside, -, -, length, steps, -, -, ⟨-, -, array⟩, -⟩ :=
    @enumerates_rectangle "book" "one" [data] ⟨2, 2⟩ ⟨3, 0⟩ countable
  refine ⟨countable, length, (steps 4).2.2, (inside ⟨3, 0⟩).mpr (by decide),
    fun member => absurd ((inside ⟨4, 0⟩).mp member) (by decide), ?_, ?_⟩
  · exact (array 1 1).trans rfl
  · exact (array 2 0).trans rfl

end Spreadsheet
