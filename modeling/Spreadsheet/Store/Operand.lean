import Spreadsheet.Store.Reference

/-!
Operands: what an expression evaluates to, a value or a reference that is still to be read.
-/

namespace Spreadsheet

/-- A value or a reference. -/
inductive Operand where
  | value (v : Value)
  | reference (r : Reference)

instance : Inhabited Operand := ⟨.value .null⟩

instance : Coe Value Operand := ⟨.value⟩

/-- Values are equal as values, references by their targets. -/
def Operand.equal : Operand → Operand → Bool
  | .value a, .value b => a == b
  | .reference a, .reference b => a == b
  | _, _ => false

instance : BEq Operand := ⟨Operand.equal⟩

def Operand.ofError (e : FormulaError) : Operand :=
  .value (.error e)

/-- The value read through a reference: of one cell its value, else an array. -/
def Reference.force (r : Reference) : Value :=
  if r.isCell then r.read (r.range.offset 0 0) else .array r.toGrid

def Operand.force : Operand → Value
  | .value v => v
  | .reference r => r.force

/-- The value of the operand, with an array of one cell taken for that cell. -/
def Operand.scalar : Operand → Value
  | .value (.array g) => if g.cells.length = 1 then (g.get? 0 0).getD .null else .array g
  | x => x.force

def Operand.asValue? : Operand → Option Value
  | .value v => some v
  | .reference _ => none

def Operand.asReference? : Operand → Option Reference
  | .value _ => none
  | .reference r => some r

/-- The error that the operand is; a reference to an error is none. -/
def Operand.asError? (x : Operand) : Option FormulaError :=
  x.asValue? >>= Value.asError?

def Operand.isRange : Operand → Bool
  | .reference _ => true
  | .value v => v.isArray

/-- The numbers of rows and columns; a scalar has one of each. -/
def Operand.shape : Operand → Nat × Nat
  | .reference r => (r.range.rows, r.range.columns)
  | .value (.array g) => (g.rows, g.columns)
  | .value _ => (1, 1)

/-- The value at an offset from the first corner. -/
def Operand.cell? (x : Operand) (row column : Nat) : Option Value :=
  match x with
  | .reference r => r.valueAt? row column
  | .value (.array g) => g.get? row column
  | .value v => if row = 0 ∧ column = 0 then some v else none

/-- The values, row by row. -/
def Operand.cells : Operand → List Value
  | .reference r => r.values
  | .value (.array g) => g.cells
  | .value v => [v]

/-- The values with their offsets from the first corner, row by row. -/
def Operand.entries : Operand → List (Nat × Nat × Value)
  | .reference r => r.toGrid.entries
  | .value (.array g) => g.entries
  | .value v => [(0, 0, v)]

def Operand.toText : Operand → String
  | .value v => v.toText
  | .reference r => r.toText

instance : ToString Operand := ⟨Operand.toText⟩

end Spreadsheet
