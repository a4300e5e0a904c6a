import Spreadsheet.Formula.Builder
import Spreadsheet.Function.Standard
import Spreadsheet.Session

/-!
The value of one formula in one cell, from its parse tree to the cells that it fills.
-/

namespace Spreadsheet

/-- Functions and limits that evaluations share. -/
structure Engine where
  registry : Registry
  options : Options := {}

def Engine.standard (options : Options) : Engine :=
  ⟨.standard, options⟩

def Engine.config (engine : Engine) (unit sheet : String) : Config where
  unit := unit
  sheet := sheet
  registry := engine.registry
  options := engine.options

/-- What the calculation of a formula yields. -/
structure Outcome where
  value : Value
  position : Position
  runtime : CellStore
  calls : List Call

/-- Builds and evaluates a formula, and writes its result at the active cell. The value is read
before that. -/
def Config.calculate (config : Config) (awaiting : Bool) (t : ParseTree) : Outcome :=
  let session : Session := { config }
  let evaluation := session.evaluate awaiting (some ⟨(Builder.standard config).build t, {}⟩)
  { value := evaluation.result.force
    position := config.position
    runtime := (session.commit evaluation.result).runtime
    calls := evaluation.calls }

end Spreadsheet
