import Spreadsheet.Function.Conditional
import Spreadsheet.Function.Registry

/-!
The registry of standard functions.
-/

namespace Spreadsheet

def standardFunctions : List Function :=
  [.sum, .sumIf, .countIf, .averageIf]

def Registry.withStandard (registry : Registry) : Registry :=
  standardFunctions.foldl register registry

def Registry.standard : Registry :=
  withStandard {}

end Spreadsheet
