import Spreadsheet.Proofs.Enumeration
import Spreadsheet.Proofs.StandardFunctions

/-!
# References and the arrays that are read from them

A reference is read each time that it is asked for cells, an array has been read once. Standard
functions cannot tell the two apart (`invoke_eq_of_readInto`): the array has the shape of the
reference and its cells in the same order, its single cell if there is only one is that of the
reference, and neither is an error, whatever is in the cells.
-/

namespace Spreadsheet

/-! ## Arguments of standard functions -/

/-- Whether an operand is left as it is, or is a reference and read into an array: the one whose rows
are cut from a pass over its cells, as long as these can be counted, or the grid of all its cells. -/
inductive Operand.ReadInto : Operand → Operand → Prop
  | kept (x : Operand) : ReadInto x x
  | array {r : Reference} (countable : (Operand.reference r).IsCountable) :
      ReadInto (.reference r) (.value (.array r.toArray))
  | grid (r : Reference) : ReadInto (.reference r) (.value (.array r.toGrid))

/-- The single value of a reference is that of the array that it is read into. -/
theorem Reference.scalar_toGrid (r : Reference) :
    (Operand.value (.array r.toGrid)).scalar = (Operand.reference r).scalar := by
  have length : r.toGrid.cells.length = r.range.size := r.length_values
  change (if r.toGrid.cells.length = 1 then (r.toGrid.get? 0 0).getD .null
    else Value.array r.toGrid) = r.force
  rw [length, force, isCell]
  by_cases single : r.range.size = 1
  · have corner : r.toGrid.get? 0 0 = some (r.read (r.range.offset 0 0)) := by
      have inside : 0 < r.range.rows ∧ 0 < r.range.columns := ⟨Nat.succ_pos _, Nat.succ_pos _⟩
      rw [Grid.get?, toGrid, if_pos inside, values, Range.positions, single]
      simp
    rw [if_pos single, corner, Option.getD_some, decide_eq_true single, if_pos rfl]
  · rw [if_neg single, decide_eq_false single, if_neg Bool.false_ne_true]

theorem Operand.alike_toGrid (r : Reference) : Alike (.reference r) (.value (.array r.toGrid)) :=
  ⟨rfl, rfl, rfl, r.scalar_toGrid.symm, rfl⟩

theorem Operand.ReadInto.alike {x y : Operand} (read : ReadInto x y) : Alike x y := by
  cases read with
  | kept => exact .refl
  | array countable =>
    rw [Reference.toArray_eq_toGrid countable]
    exact alike_toGrid _
  | grid r => exact alike_toGrid r

/-- References can be read before a standard function is called, any of them or all: the result of
the call is the same, an error included, and so it is if the call may be awaited. -/
theorem invoke_eq_of_readInto {f : Function} (standard : f ∈ standardFunctions)
    {xs ys : List Operand} (read : List.Forall₂ Operand.ReadInto xs ys) (awaiting : Bool) :
    f.invoke awaiting xs = f.invoke awaiting ys := by
  have calculated : f.calculate xs = f.calculate ys :=
    calculate_eq_of_alike standard (read.imp fun _ _ => Operand.ReadInto.alike)
  simp only [Function.invoke, isAsync_of_standard standard, Bool.and_false, Bool.false_eq_true,
    if_false, calculated]

/-- A range with a truth value and a blank, counted by a condition that is left as it is. -/
theorem invoke_eq_of_readInto_countIf :
    let data := ({} : CellStore).setCell "book" "one" ⟨1, 0⟩ (.ofBool true)
    let r : Reference := ⟨"book", "one", .between ⟨1, 0⟩ ⟨0, 0⟩, [data]⟩
    let criteria : Operand := .value (.text "=TRUE")
    Function.countIf ∈ standardFunctions ∧
      List.Forall₂ Operand.ReadInto [.reference r, criteria]
        [.value (.array r.toArray), criteria] ∧
      Function.countIf.invoke true [.reference r, criteria] =
        Function.countIf.invoke true [.value (.array r.toArray), criteria] := by
  intro data r criteria
  have standard : Function.countIf ∈ standardFunctions :=
    .tail _ (.tail _ (.head _))
  have countable : (Operand.reference r).IsCountable :=
    show 2 * 1 ≤ greatestCount by decide
  have read : List.Forall₂ Operand.ReadInto [.reference r, criteria]
      [.value (.array r.toArray), criteria] := .cons (.array countable) (.cons (.kept criteria) .nil)
  exact ⟨standard, read, invoke_eq_of_readInto standard read true⟩

end Spreadsheet
