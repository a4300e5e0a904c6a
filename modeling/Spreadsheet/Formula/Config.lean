import Spreadsheet.Decimal.Text
import Spreadsheet.Function.Registry

/-!
What the evaluation of formulas is given: the active cell, the data that references read, the
functions that calls find, and limits.
-/

namespace Spreadsheet

/-- Limits of evaluation. -/
structure Options where
  /-- The greatest number of links followed from a parameter to its operand. -/
  maxParameterDepth : Nat := 64
  /-- The greatest number of cells that one result is written into. -/
  maxSpillCells : Nat := 1000000

instance : Inhabited Options := ⟨{}⟩

/-- The number that the text of a setting denotes: digits after an optional plus sign, with blanks
around them; it has to fit 64 bits. -/
def natOfSetting? (text : String) : Option Nat :=
  let digits :=
    match trimBlanks text.toList with
    | '+' :: rest => rest
    | chars => chars
  (natOfChars? digits).filter (· ≤ greatestCount)

/-- The limits that the texts of settings ask for; one that is missing or unreadable keeps its
default. -/
def Options.ofSettings (maxParameterDepth maxSpillCells : Option String) : Options :=
  let defaults : Options := {}
  { maxParameterDepth := (maxParameterDepth >>= natOfSetting?).getD defaults.maxParameterDepth
    maxSpillCells := (maxSpillCells >>= natOfSetting?).getD defaults.maxSpillCells }

/-- What the evaluation of formulas is given. -/
structure Config where
  unit : String
  sheet : String
  position : Position := ⟨0, 0⟩
  data : CellStore := {}
  /-- Sheets by the names under which they are shown. -/
  sheetNames : List (String × String) := []
  registry : Registry := {}
  options : Options := {}

/-- Whether a name is that of a sheet itself: of one that is shown under some name, of one that has
data, or of the active one. -/
def Config.isSheet (config : Config) (name : String) : Bool :=
  config.sheetNames.any (fun entry => entry.2 == name)
    || (config.data.sheet? config.unit name).isSome || name == config.sheet

/-- The sheet that a name denotes. The name under which it is shown comes first, then one that
differs in the case of ASCII letters, then the name of the sheet itself. -/
def Config.resolveSheet? (config : Config) (name : String) : Option String :=
  match config.sheetNames.lookup name with
  | some sheet => some sheet
  | none =>
    match config.sheetNames.find? fun entry => equalIgnoringAsciiCase entry.1 name with
    | some (_, sheet) => some sheet
    | none => if config.isSheet name then some name else none

end Spreadsheet
