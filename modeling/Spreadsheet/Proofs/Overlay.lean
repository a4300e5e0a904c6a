import Spreadsheet.Session

/-!
The cells of a session after a sequence of writes.

A write covers a rectangle of positions, or its anchor alone if the result is too large. The main
statement, `Session.runtime_of_writes`, says that each position holds what the last write covering
it has put there, that nothing else is written, and that references read the written cells before
the data. `Session.cell?_write_of_covers` and `Session.cell?_write_of_not_covers` are its step: one
write replaces the cells that it covers, and no others.
-/

namespace Spreadsheet

/-! ## The entries of operands -/

/-- Whether the cells fill the shape. -/
def Grid.IsFull {α : Type} (g : Grid α) : Prop :=
  g.cells.length = g.rows * g.columns

/-- The row and the column of an index. -/
theorem rowMajor_div_mod {columns column : Nat} (row : Nat) (inside : column < columns) :
    (row * columns + column) / columns = row ∧ (row * columns + column) % columns = column := by
  have positive : 0 < columns := Nat.zero_lt_of_lt inside
  constructor
  · rw [Nat.mul_comm, Nat.mul_add_div positive, Nat.div_eq_of_lt inside, Nat.add_zero]
  · rw [Nat.mul_comm, Nat.mul_add_mod, Nat.mod_eq_of_lt inside]

theorem rowMajor_lt {rows columns row column : Nat} (above : row < rows)
    (inside : column < columns) : row * columns + column < rows * columns :=
  calc row * columns + column
    _ < row * columns + columns := Nat.add_lt_add_left inside _
    _ = (row + 1) * columns := (Nat.succ_mul row columns).symm
    _ ≤ rows * columns := Nat.mul_le_mul_right columns above

/-- The entries of a full grid are its cells. -/
theorem Grid.mem_entries {α : Type} {g : Grid α} (full : g.IsFull) {row column : Nat} {x : α} :
    (row, column, x) ∈ g.entries ↔ g.get? row column = some x := by
  simp only [entries, get?, List.mem_map, Prod.exists, List.mk_mem_zipIdx_iff_getElem?,
    Prod.mk.injEq]
  constructor
  · rintro ⟨y, i, cell, rfl, rfl, rfl⟩
    have bound : i < g.rows * g.columns := full ▸ (List.getElem?_eq_some_iff.mp cell).1
    have positive : 0 < g.columns := Nat.pos_of_lt_mul_left bound
    rw [Nat.max_eq_left positive]
    have inside : i / g.columns < g.rows ∧ i % g.columns < g.columns :=
      ⟨Nat.div_lt_of_lt_mul (by rwa [Nat.mul_comm]), Nat.mod_lt i positive⟩
    rw [if_pos inside, Nat.div_add_mod', cell]
  · intro cell
    split at cell
    · rename_i inside
      have index := rowMajor_div_mod row inside.2
      refine ⟨x, row * g.columns + column, cell, ?_⟩
      rw [Nat.max_eq_left (Nat.zero_lt_of_lt inside.2)]
      exact ⟨index.1, index.2, rfl⟩
    · cases cell

/-- Whether an operand's cells can be counted one by one. -/
def Operand.IsCountable (x : Operand) : Prop :=
  x.shape.1 * x.shape.2 ≤ greatestCount

/-- The size of a range that can be counted. -/
theorem Range.size_eq {r : Range} (countable : r.rows * r.columns ≤ greatestCount) :
    r.size = r.rows * r.columns :=
  Nat.min_eq_left countable

/-- A reference to countably many cells is read into a full grid. -/
theorem Reference.toGrid_isFull {r : Reference} (countable : (Operand.reference r).IsCountable) :
    r.toGrid.IsFull := by
  simp only [Grid.IsFull, toGrid, values, Range.positions, List.length_map, List.length_range]
  exact Range.size_eq countable

/-- The grid of a reference holds the values at offsets from the first corner. -/
theorem Reference.get?_toGrid {r : Reference} (countable : (Operand.reference r).IsCountable)
    {row column : Nat} : r.toGrid.get? row column = r.valueAt? row column := by
  by_cases inside : row < r.range.rows ∧ column < r.range.columns
  · have counted : row * r.range.columns + column < r.range.size :=
      Nat.lt_of_lt_of_eq (rowMajor_lt inside.1 inside.2) (Range.size_eq countable).symm
    have index := rowMajor_div_mod row inside.2
    simp only [Grid.get?, toGrid, valueAt?, if_pos inside, values, Range.positions,
      List.getElem?_map, List.getElem?_range counted, Option.map_some, index.1, index.2]
  · rw [valueAt?, if_neg inside]
    exact if_neg inside

/-- Whether the cells of an array fill its shape. -/
def Operand.IsFull : Operand → Prop
  | .value (.array g) => g.IsFull
  | _ => True

/-- The entries of an operand are its cells. -/
theorem Operand.mem_entries {x : Operand} (full : x.IsFull) (countable : x.IsCountable)
    {row column : Nat} {v : Value} :
    (row, column, v) ∈ x.entries ↔ x.cell? row column = some v := by
  match x with
  | .reference r =>
    rw [entries, Grid.mem_entries (Reference.toGrid_isFull countable),
      Reference.get?_toGrid countable, cell?]
  | .value (.array g) => exact Grid.mem_entries full
  | .value .null | .value (.bool _) | .value (.number _) | .value (.text _) | .value (.error _) =>
    simp [entries, cell?, and_assoc, eq_comm]

/-! ## One write -/

section Scatter

variable {store : CellStore} {unit sheet unit' sheet' : String} {anchor p : Position}
  {entries : List (Nat × Nat × Value)}

/-- A position that no entry falls on keeps its cell. -/
theorem CellStore.cell?_scatter_of_forall_ne
    (missed : ∀ entry ∈ entries,
      ¬ (unit' = unit ∧ sheet' = sheet ∧
        p = ⟨anchor.row + entry.1, anchor.column + entry.2.1⟩)) :
    (store.scatter unit sheet anchor entries).cell? unit' sheet' p =
      store.cell? unit' sheet' p := by
  induction entries generalizing store with
  | nil => rfl
  | cons entry rest ih =>
    rw [scatter, List.foldl_cons]
    refine (ih fun entry member => missed entry (List.mem_cons_of_mem _ member)).trans ?_
    rw [cell?_setCell, if_neg (missed entry List.mem_cons_self)]

/-- No other sheet is touched. -/
theorem CellStore.sheet?_scatter_of_ne (other : ¬ (unit' = unit ∧ sheet' = sheet)) :
    (store.scatter unit sheet anchor entries).sheet? unit' sheet' = store.sheet? unit' sheet' := by
  induction entries generalizing store with
  | nil => rfl
  | cons entry rest ih =>
    rw [scatter, List.foldl_cons]
    refine ih.trans ?_
    simp only [setCell, sheet?_modifySheet, if_neg other]

/-- A position that entries with one and the same value fall on gets the cell of that value. -/
theorem CellStore.cell?_scatter_of_mem {row column : Nat} {v : Value}
    (member : (row, column, v) ∈ entries)
    (unique : ∀ w, (row, column, w) ∈ entries → w = v) :
    (store.scatter unit sheet anchor entries).cell? unit sheet
      ⟨anchor.row + row, anchor.column + column⟩ = some (.ofValue v) := by
  induction entries generalizing store with
  | nil => cases member
  | cons entry rest ih =>
    rw [scatter, List.foldl_cons]
    by_cases again : (row, column, v) ∈ rest
    · exact ih again fun w later => unique w (List.mem_cons_of_mem _ later)
    · -- The entry at the head is the only one that falls on the position.
      obtain rfl : entry = (row, column, v) := by
        rcases List.mem_cons.mp member with head | later
        · exact head.symm
        · exact absurd later again
      refine (cell?_scatter_of_forall_ne ?_).trans ?_
      · rintro ⟨row', column', w⟩ later ⟨-, -, here⟩
        obtain ⟨sameRow, sameColumn⟩ := Position.mk.inj here
        obtain rfl : row = row' := Nat.add_left_cancel sameRow
        obtain rfl : column = column' := Nat.add_left_cancel sameColumn
        exact again (unique w (List.mem_cons_of_mem _ later) ▸ later)
      · rw [cell?_setCell, if_pos ⟨rfl, rfl, rfl⟩]

end Scatter

/-- A result to be written from an anchor on. -/
structure Write where
  anchor : Position
  sheet : String
  result : Operand

/-- Whether a result has more cells than a limit. -/
def Write.overflows (w : Write) (limit : Nat) : Bool :=
  limit < w.result.shape.1 * w.result.shape.2

/-- Whether a write covers a position of a sheet: the rectangle of the result from the anchor on,
or the anchor alone if the result has too many cells. -/
def Write.covers (w : Write) (limit : Nat) (sheet : String) (p : Position) : Bool :=
  sheet = w.sheet &&
    if w.overflows limit then p = w.anchor
    else
      w.anchor.row ≤ p.row && p.row < w.anchor.row + w.result.shape.1 &&
        w.anchor.column ≤ p.column && p.column < w.anchor.column + w.result.shape.2

/-- The value that a write puts at a position that it covers. -/
def Write.value? (w : Write) (limit : Nat) (p : Position) : Option Value :=
  if w.overflows limit then some (.ofErrorKind .spill)
  else w.result.cell? (p.row - w.anchor.row) (p.column - w.anchor.column)

/-- Whether the cells of a result fill its shape. Where the limit is the greatest count itself, so
that no count exceeds it, the cells have to be countable as well. -/
structure Write.IsProper (w : Write) (limit : Nat) : Prop where
  full : w.result.IsFull
  /-- The cells can be counted, or a count can exceed the limit. -/
  countable : w.result.IsCountable ∨ limit < greatestCount

/-- An operand has cells only inside its shape. -/
theorem Operand.lt_shape_of_cell? {x : Operand} {row column : Nat} {v : Value}
    (cell : x.cell? row column = some v) : row < x.shape.1 ∧ column < x.shape.2 := by
  match x with
  | .reference r =>
    simp only [cell?, Reference.valueAt?] at cell
    split at cell
    · assumption
    · cases cell
  | .value (.array g) =>
    simp only [cell?, Grid.get?] at cell
    split at cell
    · assumption
    · cases cell
  | .value .null | .value (.bool _) | .value (.number _) | .value (.text _) | .value (.error _) =>
    simp only [cell?] at cell
    split at cell
    · rename_i origin
      simp [shape, origin]
    · cases cell

/-- A grid whose cells fill its shape has a cell everywhere in it. -/
theorem Grid.exists_get? {α : Type} {g : Grid α} (full : g.IsFull) {row column : Nat}
    (above : row < g.rows) (inside : column < g.columns) : ∃ x, g.get? row column = some x := by
  have index : row * g.columns + column < g.cells.length := by
    rw [show g.cells.length = g.rows * g.columns from full]
    exact rowMajor_lt above inside
  exact ⟨_, (if_pos ⟨above, inside⟩).trans (List.getElem?_eq_getElem index)⟩

/-- An operand whose cells fill its shape has a cell everywhere in it. -/
theorem Operand.exists_cell? {x : Operand} (full : x.IsFull) {row column : Nat}
    (above : row < x.shape.1) (inside : column < x.shape.2) :
    ∃ v, x.cell? row column = some v := by
  match x with
  | .reference r => exact ⟨_, if_pos ⟨above, inside⟩⟩
  | .value (.array _) => exact Grid.exists_get? full above inside
  | .value .null | .value (.bool _) | .value (.number _) | .value (.text _) | .value (.error _) =>
    simp only [shape, Nat.lt_one_iff] at above inside
    exact ⟨_, if_pos ⟨above, inside⟩⟩

section Footprint

variable {w : Write} {limit : Nat}

/-- What a write spills is what it puts at the positions that it covers. -/
theorem Write.mem_spill (proper : w.IsProper limit) {row column : Nat} {v : Value} :
    (row, column, v) ∈ w.result.spill limit ↔
      w.covers limit w.sheet ⟨w.anchor.row + row, w.anchor.column + column⟩ ∧
        w.value? limit ⟨w.anchor.row + row, w.anchor.column + column⟩ = some v := by
  by_cases overflows : limit < w.result.shape.1 * w.result.shape.2
  · have exceeded : limit < cellCount w.result.shape.1 w.result.shape.2 := by
      rcases proper.countable with countable | proper
      · rwa [cellCount, Nat.min_eq_left countable]
      · exact Nat.lt_min.mpr ⟨overflows, proper⟩
    rcases w with ⟨⟨top, left⟩, sheet, x⟩
    simp only [Operand.spill, if_pos exceeded, List.mem_singleton, Prod.mk.injEq, covers, value?,
      Write.overflows, overflows, decide_true, if_true, Bool.true_and, decide_eq_true_eq,
      Position.mk.injEq, Nat.add_eq_left, Option.some.injEq, and_assoc]
    exact and_congr_right fun _ => and_congr_right fun _ => eq_comm
  · have fits : ¬ limit < cellCount w.result.shape.1 w.result.shape.2 :=
      fun exceeded => overflows (Nat.lt_of_lt_of_le exceeded (Nat.min_le_left _ _))
    have countable : w.result.IsCountable := by
      rcases proper.countable with countable | proper
      · exact countable
      · exact Nat.le_trans (Nat.not_lt.mp overflows) (Nat.le_of_lt proper)
    rw [Operand.spill, if_neg fits, Operand.mem_entries proper.full countable]
    simp only [covers, value?, Write.overflows, overflows, decide_false, decide_true,
      Bool.false_eq_true, if_false, Bool.true_and, Bool.and_eq_true, decide_eq_true_eq,
      Nat.le_add_right, Nat.add_lt_add_iff_left, Nat.add_sub_cancel_left, and_true]
    exact ⟨fun cell => ⟨Operand.lt_shape_of_cell? cell, cell⟩, And.right⟩

/-- A write puts a value at every position that it covers. -/
theorem Write.exists_value? (proper : w.IsProper limit) {sheet : String} {p : Position}
    (covered : w.covers limit sheet p) : ∃ v, w.value? limit p = some v := by
  simp only [covers, Bool.and_eq_true] at covered
  simp only [value?]
  split
  · exact ⟨_, rfl⟩
  · rename_i fits
    simp only [fits, Bool.false_eq_true, if_false, Bool.and_eq_true, decide_eq_true_eq] at covered
    exact Operand.exists_cell? proper.full (by omega) (by omega)

/-- A position that is covered lies at an offset from the anchor. -/
theorem Write.offset_of_covers {sheet : String} {p : Position} (covered : w.covers limit sheet p) :
    sheet = w.sheet ∧
      p = ⟨w.anchor.row + (p.row - w.anchor.row), w.anchor.column + (p.column - w.anchor.column)⟩ := by
  simp only [covers, Bool.and_eq_true, decide_eq_true_eq] at covered
  refine ⟨covered.1, ?_⟩
  have inside := covered.2
  split at inside
  · simp [of_decide_eq_true inside]
  · simp only [Bool.and_eq_true, decide_eq_true_eq] at inside
    rw [Nat.add_sub_cancel' inside.1.1.1, Nat.add_sub_cancel' inside.1.2]

end Footprint

/-- A write puts its values at the positions that it covers. -/
theorem Session.cell?_write_of_covers {s : Session} {w : Write} {sheet : String} {p : Position}
    (proper : w.IsProper s.config.options.maxSpillCells)
    (covered : w.covers s.config.options.maxSpillCells sheet p) :
    ∃ v, w.value? s.config.options.maxSpillCells p = some v ∧
      (s.write w.anchor w.sheet w.result).runtime.cell? s.config.unit sheet p =
        some (.ofValue v) := by
  obtain ⟨v, value⟩ := Write.exists_value? proper covered
  obtain ⟨rfl, offset⟩ := Write.offset_of_covers covered
  refine ⟨v, value, ?_⟩
  rw [offset] at covered value ⊢
  apply CellStore.cell?_scatter_of_mem
  · exact (Write.mem_spill proper).mpr ⟨covered, value⟩
  · intro u member
    exact Option.some.inj (((Write.mem_spill proper).mp member).2.symm.trans value)

/-- A write leaves alone what it does not cover, and all other units. -/
theorem Session.cell?_write_of_not_covers {s : Session} {w : Write} {unit sheet : String}
    {p : Position} (proper : w.IsProper s.config.options.maxSpillCells)
    (missed : ¬ (unit = s.config.unit ∧ w.covers s.config.options.maxSpillCells sheet p)) :
    (s.write w.anchor w.sheet w.result).runtime.cell? unit sheet p =
      s.runtime.cell? unit sheet p := by
  apply CellStore.cell?_scatter_of_forall_ne
  rintro ⟨row, column, v⟩ member ⟨rfl, rfl, rfl⟩
  exact missed ⟨rfl, ((Write.mem_spill proper).mp member).1⟩

/-! ## All writes -/

/-- The session after several writes, one after another. -/
def Session.writeAll (s : Session) (writes : List Write) : Session :=
  writes.foldl (fun s w => s.write w.anchor w.sheet w.result) s

theorem Session.writeAll_cons {s : Session} {w : Write} {rest : List Write} :
    s.writeAll (w :: rest) = (s.write w.anchor w.sheet w.result).writeAll rest :=
  rfl

@[simp]
theorem Session.config_writeAll {s : Session} {writes : List Write} :
    (s.writeAll writes).config = s.config := by
  induction writes generalizing s with
  | nil => rfl
  | cons w rest ih => exact ih

theorem Session.writeAll_append {s : Session} {earlier later : List Write} :
    s.writeAll (earlier ++ later) = (s.writeAll earlier).writeAll later :=
  List.foldl_append

/-- Writes leave alone what none of them covers, and all other units. -/
theorem Session.cell?_writeAll_of_not_covers {s : Session} {writes : List Write}
    {unit sheet : String} {p : Position}
    (proper : ∀ w ∈ writes, w.IsProper s.config.options.maxSpillCells)
    (missed : ∀ w ∈ writes,
      ¬ (unit = s.config.unit ∧ w.covers s.config.options.maxSpillCells sheet p)) :
    (s.writeAll writes).runtime.cell? unit sheet p = s.runtime.cell? unit sheet p := by
  induction writes generalizing s with
  | nil => rfl
  | cons w rest ih =>
    rw [writeAll_cons, ih (s := s.write w.anchor w.sheet w.result)
      (fun w member => proper w (List.mem_cons_of_mem _ member))
      fun w member => missed w (List.mem_cons_of_mem _ member)]
    exact cell?_write_of_not_covers (proper w List.mem_cons_self) (missed w List.mem_cons_self)

/-- A position holds what the last write that covers it has put there. -/
theorem Session.cell?_writeAll_of_covers {s : Session} {earlier later : List Write} {w : Write}
    {sheet : String} {p : Position}
    (proper : ∀ w' ∈ earlier ++ w :: later, w'.IsProper s.config.options.maxSpillCells)
    (covered : w.covers s.config.options.maxSpillCells sheet p)
    (last : ∀ w' ∈ later, ¬ w'.covers s.config.options.maxSpillCells sheet p) :
    ∃ v, w.value? s.config.options.maxSpillCells p = some v ∧
      (s.writeAll (earlier ++ w :: later)).runtime.cell? s.config.unit sheet p =
        some (.ofValue v) := by
  have same : (s.writeAll earlier).config = s.config := config_writeAll
  rw [← same] at proper covered last ⊢
  obtain ⟨v, value, written⟩ :=
    cell?_write_of_covers (proper w (by simp)) covered
  refine ⟨v, value, ?_⟩
  rw [writeAll_append, writeAll_cons, cell?_writeAll_of_not_covers]
  · exact written
  · exact fun w' member => proper w' (by simp [member])
  · exact fun w' member covers => last w' member covers.2

/-- Writes leave all other units alone. -/
theorem Session.sheet?_writeAll_of_ne {s : Session} {writes : List Write} {unit sheet : String}
    (other : unit ≠ s.config.unit) :
    (s.writeAll writes).runtime.sheet? unit sheet = s.runtime.sheet? unit sheet := by
  induction writes generalizing s with
  | nil => rfl
  | cons w rest ih =>
    rw [writeAll_cons, ih (s := s.write w.anchor w.sheet w.result) other]
    exact CellStore.sheet?_scatter_of_ne fun same => other same.1

/-- References of a session read what has been written, and elsewhere the data. -/
theorem Session.readCell_layers {s : Session} {unit sheet : String} {p : Position} :
    readCell s.layers unit sheet p =
      (((s.runtime.cell? unit sheet p).or (s.config.data.cell? unit sheet p)).map
        Cell.value).getD .null := by
  simp only [readCell, lookupCell, layers, List.findSome?_cons, List.findSome?_nil]
  cases s.runtime.cell? unit sheet p <;> cases s.config.data.cell? unit sheet p <;> rfl

/-- The cells of a session after any sequence of writes. Each position of the active unit holds the
cell of the value that the last write covering it has put there, and nothing if there is none. No
other unit has a sheet. A reference that is evaluated then reads the written cells, even blank ones,
before those of the data, and null where neither has a cell. -/
theorem Session.runtime_of_writes {config : Config} {writes : List Write}
    (proper : ∀ w ∈ writes, w.IsProper config.options.maxSpillCells) :
    let limit := config.options.maxSpillCells
    let s := ({ config } : Session).writeAll writes
    (∀ (sheet : String) (p : Position) (k : Nat) (w : Write),
        writes[k]? = some w → w.covers limit sheet p →
        (∀ (j : Nat) (later : Write),
          k < j → writes[j]? = some later → ¬ later.covers limit sheet p) →
        ∃ v, w.value? limit p = some v ∧
          s.runtime.cell? config.unit sheet p = some (.ofValue v)) ∧
      (∀ sheet p, (∀ w ∈ writes, ¬ w.covers limit sheet p) →
        s.runtime.cell? config.unit sheet p = none) ∧
      (∀ unit sheet, unit ≠ config.unit → s.runtime.sheet? unit sheet = none) ∧
      ∀ awaiting token unit sheet range kept environment,
        ∃ r, (s.evaluate awaiting
            (some ⟨.reference token unit sheet range kept, environment⟩)).result = .reference r ∧
          ∀ row column, row < range.rows → column < range.columns →
            let p := range.offset row column
            r.valueAt? row column =
              some ((((s.runtime.cell? unit sheet p).or (config.data.cell? unit sheet p)).map
                Cell.value).getD .null) := by
  intro limit s
  refine ⟨fun sheet p k w here covered last => ?_, fun sheet p missed => ?_,
    fun unit sheet other => ?_, fun awaiting token unit sheet range kept environment => ?_⟩
  · obtain ⟨bound, rfl⟩ := List.getElem?_eq_some_iff.mp here
    have split : writes = writes.take k ++ writes[k] :: writes.drop (k + 1) := by
      rw [← List.drop_eq_getElem_cons bound, List.take_append_drop]
    have later : ∀ w' ∈ writes.drop (k + 1), ¬ w'.covers limit sheet p := by
      intro w' member
      obtain ⟨i, there⟩ := List.mem_iff_getElem?.mp member
      rw [List.getElem?_drop] at there
      exact last (k + 1 + i) w' (by omega) there
    have written : ∃ v, writes[k].value? limit p = some v ∧
        (({ config } : Session).writeAll
          (writes.take k ++ writes[k] :: writes.drop (k + 1))).runtime.cell? config.unit sheet p =
            some (.ofValue v) :=
      cell?_writeAll_of_covers (s := { config }) (fun w' member => proper w' (split ▸ member))
        covered later
    rwa [← split] at written
  · exact cell?_writeAll_of_not_covers proper fun w member covers => missed w member covers.2
  · exact sheet?_writeAll_of_ne other
  · refine ⟨⟨unit, sheet, range, s.layers⟩, ?_, fun row column above inside => ?_⟩
    · cases awaiting <;> rfl
    · rw [Reference.valueAt?, if_pos ⟨above, inside⟩, Reference.read, readCell_layers,
        config_writeAll]

/-- A blank written over a corner of an array with two rows and two columns. -/
theorem Session.runtime_of_array_and_blank :
    let config : Config := { unit := "book", sheet := "one" }
    let writes : List Write := [⟨⟨0, 0⟩, "one", .value (.array (.filled 2 2 (.bool true)))⟩,
      ⟨⟨1, 1⟩, "one", .value .null⟩]
    let s := ({ config } : Session).writeAll writes
    (∀ w ∈ writes, w.IsProper config.options.maxSpillCells) ∧
      s.runtime.cell? "book" "one" ⟨0, 1⟩ = some (.ofValue (.bool true)) ∧
      s.runtime.cell? "book" "one" ⟨1, 1⟩ = some (.ofValue .null) ∧
      s.runtime.cell? "book" "one" ⟨2, 2⟩ = none := by
  intro config writes s
  have proper : ∀ w ∈ writes, w.IsProper config.options.maxSpillCells := by
    intro w member
    refine ⟨?_, .inr (by decide)⟩
    simp only [writes, List.mem_cons, List.not_mem_nil, or_false] at member
    rcases member with rfl | rfl
    · rfl
    · trivial
  obtain ⟨written, untouched, -, -⟩ := runtime_of_writes proper
  refine ⟨proper, ?_, ?_, untouched "one" ⟨2, 2⟩ (by decide)⟩
  · obtain ⟨v, value, cell⟩ := written "one" ⟨0, 1⟩ 0 _ rfl (by decide) <| by
      intro j later after there
      rcases j with _ | _ | j
      · cases after
      · cases there
        decide
      · cases there
    cases value
    exact cell
  · obtain ⟨v, value, cell⟩ := written "one" ⟨1, 1⟩ 1 _ rfl (by decide) <| by
      intro j later after there
      rcases j with _ | _ | j
      · cases after
      · exact absurd after (Nat.lt_irrefl 1)
      · cases there
    cases value
    exact cell

end Spreadsheet
