import Spreadsheet.Function.Aggregate
import Spreadsheet.Function.Criteria

/-!
Sums, counts and means of the cells that meet a condition.

The condition is tested on one range and the cells come from another of the same shape, the first
one itself if it is left out. Chosen cells that are no numbers count, but add nothing.
-/

namespace Spreadsheet

def FormulaError.shapeMismatch (name : String) (range target : Nat × Nat) : FormulaError :=
  let size := fun shape : Nat × Nat => toString shape.1 ++ "x" ++ toString shape.2
  ⟨.value, some (name ++ ": range is " ++ size range ++ " but the aggregated range is "
    ++ size target)⟩

/-- The cells of `target` at the positions where `range` meets the condition. -/
def chooseCells (name : String) (range criteria target : Operand) :
    Except FormulaError (List Value) := do
  if let some e := range.asError? then throw e
  if let some e := target.asError? then throw e
  let condition ← Criteria.ofOperand? criteria
  if range.shape ≠ target.shape then throw (.shapeMismatch name range.shape target.shape)
  return ((range.cells.zip target.cells).filter fun pair => condition.accepts pair.1).map (·.2)

/-- The cells chosen by arguments: a range, a condition and, where it is allowed, a target. -/
def chosenCells (name : String) (allowsTarget : Bool) (args : List Operand) :
    Except FormulaError (List Value) :=
  match args, allowsTarget with
  | [range, criteria], _ => chooseCells name range criteria range
  | [range, criteria, target], true => chooseCells name range criteria target
  | _, _ => .error (.argumentCount name (if allowsTarget then "2 or 3" else "2") args.length)

def numbersOf (cells : List Value) : List Number :=
  cells.filterMap Value.asNumber?

/-- The sum of numbers, added from left to right. -/
def totalOf (numbers : List Number) : Number :=
  numbers.foldl Number.add (.ofInt 0)

/-- The mean of numbers; of none it is a division by zero. -/
def meanOf (numbers : List Number) : Except FormulaError Number :=
  match (totalOf numbers).div? (.ofInt numbers.length) with
  | .ok n => .ok n
  | .error e => .error (.ofNumberError e)

/-- What a conditional function tells about its first two arguments. -/
def conditionArguments (sample : String) : List ArgumentInfo :=
  [⟨"range", "Range", "Cells tested against the criteria", none⟩,
    ⟨"criteria", "Text|Number", "Condition such as " ++ sample, none⟩]

def Function.sumIf : Function where
  info := {
    name := "SUMIF"
    description := "Sum of the cells whose criteria cell matches"
    usage := "SUMIF(range, criteria, [sum_range])"
    arguments := conditionArguments "\">40\" or \"test*\"" ++
      [⟨"sum_range", "Range", "Cells to add; defaults to range", some "range"⟩]
    returns := "Number"
    examples := ["SUMIF(A1:A4, \">40\")", "SUMIF(B2:B4, \"test*\", C2:C4)"]
    category := "conditional" }
  calculate args :=
    .ofNumber? ((chosenCells "SUMIF" true args).map fun cells => totalOf (numbersOf cells))

def Function.countIf : Function where
  info := {
    name := "COUNTIF"
    description := "Number of cells matching the criteria"
    usage := "COUNTIF(range, criteria)"
    arguments := conditionArguments "\"<>x\""
    returns := "Number"
    examples := ["COUNTIF(B2:B4, \"test*\")"]
    category := "conditional" }
  calculate args :=
    .ofNumber? ((chosenCells "COUNTIF" false args).map fun cells => .ofInt cells.length)

def Function.averageIf : Function where
  info := {
    name := "AVERAGEIF"
    description := "Mean of the numeric cells whose criteria cell matches"
    usage := "AVERAGEIF(range, criteria, [average_range])"
    arguments := conditionArguments "\">=10\"" ++
      [⟨"average_range", "Range", "Cells to average; defaults to range", some "range"⟩]
    returns := "Number"
    examples := ["AVERAGEIF(A1:A4, \">1\")"]
    category := "conditional" }
  calculate args :=
    .ofNumber? ((chosenCells "AVERAGEIF" true args).bind fun cells => meanOf (numbersOf cells))

end Spreadsheet
