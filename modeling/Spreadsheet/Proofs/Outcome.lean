import Spreadsheet.Engine
import Spreadsheet.Proofs.Lexical
import Spreadsheet.Proofs.Runs

/-!
# A value and its cells

The value that a calculation reports is read from its result on its own, and the cells are written
from the result that has not been read. Both have the same cells in the same places, a reference
being read through the layers with which it has been made, whatever is written since
(`Config.runtime_calculate`).

The reason is that an operand and its value have one shape and one cell at each offset
(`Operand.WellFormed.shape_force`, `Operand.WellFormed.cell?_force`), and that what is written are
the cells (`Operand.WellFormed.mem_spill`).
-/

namespace Spreadsheet

/-! ## An operand and its value -/

section Forcing

variable {N : Number → Prop}

theorem Value.IsScalar.shape {v : Value} (scalar : v.IsScalar N) :
    (Operand.value v).shape = (1, 1) := by
  cases scalar <;> rfl

theorem Value.IsScalar.isCountable {v : Value} (scalar : v.IsScalar N) :
    (Operand.value v).IsCountable := by
  unfold Operand.IsCountable
  rw [scalar.shape]
  decide

theorem Value.IsScalar.cell? {v : Value} (scalar : v.IsScalar N) (row column : Nat) :
    (Operand.value v).cell? row column = if row = 0 ∧ column = 0 then some v else none := by
  cases scalar <;> rfl

/-- A reference to countably many cells is to a single one if it has one row and one column. -/
theorem Reference.isCell_iff {r : Reference} (countable : (Operand.reference r).IsCountable) :
    r.isCell ↔ r.range.rows = 1 ∧ r.range.columns = 1 := by
  unfold Reference.isCell
  rw [decide_eq_true_iff, Range.size_eq countable]
  constructor
  · intro one
    exact ⟨Nat.eq_one_of_mul_eq_one_right one, Nat.eq_one_of_mul_eq_one_left one⟩
  · rintro ⟨rows, columns⟩
    rw [rows, columns]

variable {x : Operand}

/-- An operand has the shape of its value. -/
theorem Operand.WellFormed.shape_force (wellFormed : x.WellFormed N) :
    (Operand.value x.force).shape = x.shape := by
  cases wellFormed with
  | value _ => rfl
  | @reference r countable scalars =>
    change (Operand.value r.force).shape = (r.range.rows, r.range.columns)
    unfold Reference.force
    split
    · rename_i single
      obtain ⟨rows, columns⟩ := (Reference.isCell_iff countable).mp single
      rw [(scalars _).shape, rows, columns]
    · rfl

/-- An operand has the cells of its value. -/
theorem Operand.WellFormed.cell?_force (wellFormed : x.WellFormed N) (row column : Nat) :
    (Operand.value x.force).cell? row column = x.cell? row column := by
  cases wellFormed with
  | value _ => rfl
  | @reference r countable scalars =>
    change (Operand.value r.force).cell? row column = r.valueAt? row column
    unfold Reference.force
    split
    · rename_i single
      obtain ⟨rows, columns⟩ := (Reference.isCell_iff countable).mp single
      rw [(scalars _).cell?, Reference.valueAt?, rows, columns]
      simp only [Nat.lt_one_iff]
      split
      · rename_i corner
        rw [corner.1, corner.2]
      · rfl
    · exact Reference.get?_toGrid countable

/-- The entries of a well-formed operand are its cells. -/
theorem Operand.WellFormed.mem_entries (wellFormed : x.WellFormed N) {row column : Nat}
    {v : Value} : (row, column, v) ∈ x.entries ↔ x.cell? row column = some v := by
  have full := wellFormed.isFull
  cases wellFormed with
  | reference countable _ => exact Operand.mem_entries full countable
  | value wellFormed =>
    cases wellFormed with
    | table table => exact Grid.mem_entries table.full
    | scalar scalar => exact Operand.mem_entries full scalar.isCountable

/-- What is written of a well-formed operand are its cells, or the error of too many of them. -/
theorem Operand.WellFormed.mem_spill (wellFormed : x.WellFormed N) {limit row column : Nat}
    {v : Value} :
    (row, column, v) ∈ x.spill limit ↔
      if limit < cellCount x.shape.1 x.shape.2 then
        row = 0 ∧ column = 0 ∧ v = .ofErrorKind .spill
      else x.cell? row column = some v := by
  unfold Operand.spill
  split
  · rw [List.mem_singleton, Prod.mk.injEq, Prod.mk.injEq]
  · exact wellFormed.mem_entries

end Forcing

/-! ## What is written of an operand -/

section Writing

variable {N : Number → Prop} {x : Operand} {limit : Nat} {store : CellStore}
  {unit sheet : String} {anchor : Position}

/-- A well-formed operand with no more cells than the limit is written cell by cell, and nothing
else is written. -/
theorem Operand.WellFormed.cell?_scatter_of_le (wellFormed : x.WellFormed N)
    (fits : x.shape.1 * x.shape.2 ≤ limit) :
    let after := store.scatter unit sheet anchor (x.spill limit)
    (∀ row column, row < x.shape.1 → column < x.shape.2 →
        ∃ v, x.cell? row column = some v ∧
          after.cell? unit sheet ⟨anchor.row + row, anchor.column + column⟩ =
            some (.ofValue v)) ∧
      ∀ p, (∀ row column, row < x.shape.1 → column < x.shape.2 →
          p ≠ ⟨anchor.row + row, anchor.column + column⟩) →
        after.cell? unit sheet p = store.cell? unit sheet p := by
  intro after
  have counted : ¬ limit < cellCount x.shape.1 x.shape.2 :=
    Nat.not_lt.mpr (Nat.le_trans (Nat.min_le_left _ _) fits)
  have spilled : ∀ {row column v}, (row, column, v) ∈ x.spill limit ↔
      x.cell? row column = some v := by
    intro row column v
    rw [wellFormed.mem_spill, if_neg counted]
  constructor
  · intro row column above inside
    obtain ⟨v, cell⟩ := Operand.exists_cell? wellFormed.isFull above inside
    refine ⟨v, cell, ?_⟩
    apply CellStore.cell?_scatter_of_mem (spilled.mpr cell)
    intro w member
    have other : x.cell? row column = some w := spilled.mp member
    rw [cell] at other
    exact (Option.some.inj other).symm
  · intro p missed
    apply CellStore.cell?_scatter_of_forall_ne
    rintro ⟨row, column, v⟩ member ⟨-, -, here⟩
    obtain ⟨above, inside⟩ := Operand.lt_shape_of_cell? (spilled.mp member)
    exact missed row column above inside here

/-- Of a well-formed operand with more cells than the limit nothing is written but an error. -/
theorem Operand.WellFormed.cell?_scatter_of_lt (wellFormed : x.WellFormed N)
    (exceeds : limit < cellCount x.shape.1 x.shape.2) :
    let after := store.scatter unit sheet anchor (x.spill limit)
    after.cell? unit sheet anchor = some (.ofValue (.ofErrorKind .spill)) ∧
      ∀ p, p ≠ anchor → after.cell? unit sheet p = store.cell? unit sheet p := by
  intro after
  have spilled : ∀ {row column v}, (row, column, v) ∈ x.spill limit ↔
      row = 0 ∧ column = 0 ∧ v = .ofErrorKind .spill := by
    intro row column v
    rw [wellFormed.mem_spill, if_pos exceeds]
  constructor
  · apply CellStore.cell?_scatter_of_mem (spilled.mpr ⟨rfl, rfl, rfl⟩)
    intro w member
    exact (spilled.mp member).2.2
  · intro p elsewhere
    apply CellStore.cell?_scatter_of_forall_ne
    rintro ⟨row, column, v⟩ member ⟨-, -, here⟩
    obtain ⟨rfl, rfl, -⟩ := spilled.mp member
    exact elsewhere here

end Writing

/-! ## Calculations -/

/-- The result of a calculation with standard functions is well formed. -/
theorem Config.wellFormed_evaluate {config : Config} {awaiting : Bool} {t : ParseTree}
    (standard : config.registry = .standard) :
    (({ config } : Session).evaluate awaiting
      (some ⟨(Builder.standard config).build t, {}⟩)).result.WellFormed fun _ => True := by
  have anything : ∀ store : CellStore, store.Holds fun _ => True := by
    intro store unit sheet p c _ n _
    trivial
  have fresh : Formula.WellFormed (fun _ => True) ⟨(Builder.standard config).build t, {}⟩ :=
    Formula.wellFormed_build standard
  exact (Session.wellFormed_evaluate Arithmetic.closed_true (anything _) (anything _) fresh).1

/-- A value and the cells that are written for it. A calculation with standard functions writes into
no sheet but the active one. If the shape of its value has no more cells than the limit, the cells
written there are the rectangle of the shape from the active cell on, and each holds the cell of the
value at its offset. If the cells of the shape, as far as they can be counted, exceed the limit, the
active cell alone is written and holds `#SPILL!`. -/
theorem Config.runtime_calculate {config : Config} (awaiting : Bool) (t : ParseTree)
    (standard : config.registry = .standard) :
    let outcome := config.calculate awaiting t
    let x : Operand := .value outcome.value
    let limit := config.options.maxSpillCells
    let offset := fun row column : Nat =>
      (⟨config.position.row + row, config.position.column + column⟩ : Position)
    (∀ unit sheet, ¬ (unit = config.unit ∧ sheet = config.sheet) →
        outcome.runtime.sheet? unit sheet = none) ∧
      (x.shape.1 * x.shape.2 ≤ limit →
        (∀ row column, row < x.shape.1 → column < x.shape.2 →
            ∃ v, x.cell? row column = some v ∧
              outcome.runtime.cell? config.unit config.sheet (offset row column) =
                some (.ofValue v)) ∧
          ∀ p, (∀ row column, row < x.shape.1 → column < x.shape.2 → p ≠ offset row column) →
            outcome.runtime.cell? config.unit config.sheet p = none) ∧
      (limit < cellCount x.shape.1 x.shape.2 →
        outcome.runtime.cell? config.unit config.sheet config.position =
            some (.ofValue (.ofErrorKind .spill)) ∧
          ∀ p, p ≠ config.position →
            outcome.runtime.cell? config.unit config.sheet p = none) := by
  intro outcome x limit offset
  let y := (({ config } : Session).evaluate awaiting
    (some ⟨(Builder.standard config).build t, {}⟩)).result
  have wellFormed : y.WellFormed fun _ => True := Config.wellFormed_evaluate standard
  have shape : x.shape = y.shape := wellFormed.shape_force
  have cells : ∀ row column, x.cell? row column = y.cell? row column := wellFormed.cell?_force
  have written : outcome.runtime =
      ({} : CellStore).scatter config.unit config.sheet config.position (y.spill limit) := rfl
  rw [written, shape]
  refine ⟨fun unit sheet other => CellStore.sheet?_scatter_of_ne other, fun fits => ?_,
    fun exceeds => wellFormed.cell?_scatter_of_lt exceeds⟩
  obtain ⟨inside, outside⟩ := wellFormed.cell?_scatter_of_le fits
  refine ⟨fun row column above before => ?_, outside⟩
  rw [cells]
  exact inside row column above before

/-- A reference to two cells, written from the second of them on: the first cell comes in its place,
and what it has held goes into the next one. -/
theorem Config.runtime_calculate_overlapping :
    let data := ({} : CellStore).setCell "book" "one" ⟨0, 0⟩ (.ofBool true)
    let config : Config :=
      { unit := "book", sheet := "one", position := ⟨0, 1⟩, data, registry := .standard }
    let outcome := config.calculate false (.leaf "A1:B1")
    config.registry = .standard ∧
      outcome.runtime.cell? "book" "one" ⟨0, 0⟩ = none ∧
      outcome.runtime.cell? "book" "one" ⟨0, 1⟩ = some (.ofValue (.bool true)) ∧
      outcome.runtime.cell? "book" "one" ⟨0, 2⟩ = some (.ofValue .null) := by
  intro data config outcome
  have value : outcome.value = (({ config } : Session).evaluate false (some ⟨Builder.build
      ⟨config, [.parameter, .lambda, .function, .operator, .value, .reference]⟩
      (.leaf "A1:B1"), {}⟩)).result.force :=
    congrArg (fun b : Builder => (({ config } : Session).evaluate false
      (some ⟨b.build (.leaf "A1:B1"), {}⟩)).result.force) Builder.standard_eq
  have shape : (Operand.value outcome.value).shape = (1, 2) := by
    rw [value]
    decide +kernel
  have first : ((Operand.value outcome.value).cell? 0 0).map Value.asBool? = some (some true) := by
    rw [value]
    decide +kernel
  have second : ((Operand.value outcome.value).cell? 0 1).map Value.isNull = some true := by
    rw [value]
    decide +kernel
  have standard : config.registry = .standard := rfl
  obtain ⟨-, rectangle, -⟩ := runtime_calculate false (.leaf "A1:B1") standard
  have fits : (Operand.value outcome.value).shape.1 * (Operand.value outcome.value).shape.2 ≤
      config.options.maxSpillCells := by
    rw [shape]
    decide
  obtain ⟨inside, outside⟩ := rectangle fits
  refine ⟨standard, outside ⟨0, 0⟩ fun row column _ _ here => ?_, ?_, ?_⟩
  · have before : 0 = 1 + column := congrArg Position.column here
    omega
  · obtain ⟨v, cell, written⟩ := inside 0 0 (by rw [shape]; decide) (by rw [shape]; decide)
    rw [cell] at first
    cases v with
    | bool b =>
      cases first
      exact written
    | null | number _ | text _ | error _ | array _ => cases first
  · obtain ⟨v, cell, written⟩ := inside 0 1 (by rw [shape]; decide) (by rw [shape]; decide)
    rw [cell] at second
    cases v with
    | null => exact written
    | bool _ | number _ | text _ | error _ | array _ => cases second

end Spreadsheet
