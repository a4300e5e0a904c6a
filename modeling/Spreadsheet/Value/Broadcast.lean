import Spreadsheet.Value.Basic

/-!
Binary operations on values. `Value.broadcast` extends an operation on scalars to all values: an
error on the left wins, then one on the right, and arrays are taken cell by cell, at any depth. A
scalar is combined with every cell of an array, and two arrays position by position.
-/

namespace Spreadsheet

mutual

/-- Applies an operation to every scalar inside a value; errors stay as they are. -/
def Value.mapScalars (op : Value → Value) : Value → Value
  | .error e => .error e
  | .array ⟨rows, columns, cells⟩ => .array ⟨rows, columns, Value.mapScalarsAll op cells⟩
  | scalar => op scalar

/-- Applies an operation to every scalar inside each value of a list. -/
def Value.mapScalarsAll (op : Value → Value) : List Value → List Value
  | [] => []
  | x :: rest => Value.mapScalars op x :: Value.mapScalarsAll op rest

end

/-- The value at a position that one of two combined arrays lacks. -/
def Value.notAvailable : Value :=
  .ofErrorKind .notAvailable

/-- Combines a grid of operations with a right operand that is not an error: with each cell of an
array at its position, with a scalar everywhere. -/
def Value.applyCells (operations : Grid (Value → Value)) : Value → Value
  | .error e => .error e
  | .array cells => .array (operations.zipBroadcast (fun operation y => operation y) notAvailable cells)
  | scalar => .array (operations.map fun operation => operation scalar)

mutual

/-- Extends an operation on two scalars to all values. -/
def Value.broadcast (op : Value → Value → Value) : Value → Value → Value
  | .error e => fun _ => .error e
  | .array ⟨rows, columns, cells⟩ =>
    Value.applyCells ⟨rows, columns, Value.broadcastAll op cells⟩
  | scalar => Value.mapScalars (op scalar)

/-- Extends an operation to each value of a list as its left operand. -/
def Value.broadcastAll (op : Value → Value → Value) : List Value → List (Value → Value)
  | [] => []
  | x :: rest => Value.broadcast op x :: Value.broadcastAll op rest

end

end Spreadsheet
