import Spreadsheet.Value.Broadcast

/-!
Concatenation of values as texts.
-/

namespace Spreadsheet

def Value.joinScalars (x y : Value) : Value :=
  .text (x.scalarText?.getD "" ++ y.scalarText?.getD "")

def Value.followedBy : Value → Value → Value :=
  .broadcast .joinScalars

/-- The first value preceded by the second. The first one's errors still come first. -/
def Value.precededBy : Value → Value → Value :=
  .broadcast fun x y => joinScalars y x

end Spreadsheet
