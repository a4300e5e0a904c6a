import Spreadsheet.Function.Basic

/-!
The sum of values and ranges.
-/

namespace Spreadsheet

/-- A total with the numbers of cells added; an error among the cells takes its place, and all else
is passed over. -/
def addCells (total : Number) : List Value → Except FormulaError Number
  | [] => .ok total
  | .number n :: rest => addCells (total.add n) rest
  | .error e :: _ => .error e
  | _ :: rest => addCells total rest

/-- A total with the cells of a range or the number of a scalar added. -/
def addOperand (total : Number) (arg : Operand) : Except FormulaError Number :=
  if arg.isRange then addCells total arg.cells else arg.scalar.toNumber?.map total.add

/-- The sum of operands; the first error among them takes its place. -/
def sumOperands : Number → List Operand → Except FormulaError Number
  | total, [] => .ok total
  | total, arg :: rest => do sumOperands (← addOperand total arg) rest

/-- The operand of a number that may have failed. -/
def Operand.ofNumber? : Except FormulaError Number → Operand
  | .ok n => .value (.number n)
  | .error e => .ofError e

def Function.sum : Function where
  info := {
    name := "SUM"
    description := "Sum of values. Text and booleans inside ranges are ignored"
    usage := "SUM(a, b, ...)"
    arguments := [⟨"values", "Number...", "Values or ranges to sum", none⟩]
    returns := "Number"
    examples := ["SUM(1, 2, 3) → 6", "SUM(A1:A4)"]
    category := "aggregate" }
  calculate args :=
    if args.isEmpty then .ofError (.argumentCount "SUM" "at least 1" 0)
    else .ofNumber? (sumOperands (.ofInt 0) args)

end Spreadsheet
