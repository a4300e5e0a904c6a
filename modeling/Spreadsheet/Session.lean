import Spreadsheet.Formula.Config
import Spreadsheet.Formula.Evaluation

/-!
Sessions: formulas evaluated one after another, with results written into cells that later formulas
read before the data.

A result fills a rectangle of cells from an anchor on. One that is larger than the limit puts a
single `#SPILL!` there instead.
-/

namespace Spreadsheet

/-- A session. -/
structure Session where
  config : Config
  runtime : CellStore := {}

/-! ## Evaluation -/

/-- Where references read: what has been written hides the data. -/
def Session.layers (s : Session) : Layers :=
  [s.runtime, s.config.data]

def Session.surroundings (s : Session) : Surroundings :=
  ⟨s.layers, s.config.options.maxParameterDepth⟩

/-- What an evaluation yields. -/
structure Evaluation where
  result : Operand
  formula : Option Formula
  calls : List Call

def FormulaError.noFormula : FormulaError :=
  ⟨.value, some "No formula to evaluate"⟩

/-- Evaluates a formula, if there is one; it may wait for asynchronous functions or not. -/
def Session.evaluate (s : Session) (awaiting : Bool) : Option Formula → Evaluation
  | none => ⟨.ofError .noFormula, none, []⟩
  | some f =>
    let (f, calls) := if awaiting then f.runAwaiting s.surroundings else f.run s.surroundings
    ⟨f.root.operand, some f, calls⟩

/-! ## Results in cells -/

/-- The values that a result is written as, by their offsets from the anchor. -/
def Operand.spill (maxCells : Nat) (x : Operand) : List (Nat × Nat × Value) :=
  if maxCells < cellCount x.shape.1 x.shape.2 then [(0, 0, .ofErrorKind .spill)] else x.entries

/-- The store with the cells of values at their offsets from an anchor, one after another. -/
def CellStore.scatter (store : CellStore) (unit sheet : String) (anchor : Position)
    (entries : List (Nat × Nat × Value)) : CellStore :=
  entries.foldl (fun store (row, column, v) =>
    store.setCell unit sheet ⟨anchor.row + row, anchor.column + column⟩ (.ofValue v)) store

/-- The session with a result written from an anchor on. -/
def Session.write (s : Session) (anchor : Position) (sheet : String) (x : Operand) : Session :=
  let entries := x.spill s.config.options.maxSpillCells
  { s with runtime := s.runtime.scatter s.config.unit sheet anchor entries }

/-- The session with a result written at the active cell. -/
def Session.commit (s : Session) (x : Operand) : Session :=
  s.write s.config.position s.config.sheet x

end Spreadsheet
