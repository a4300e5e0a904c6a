import Spreadsheet.Store.Operand

/-!
Functions that formulas call, and what they tell about themselves.
-/

namespace Spreadsheet

/-- What a function tells about an argument. -/
structure ArgumentInfo where
  name : String
  kind : String
  description : String
  /-- What stands for it when it is left out; without a default it is required. -/
  default : Option String := none

/-- What a function tells about itself. -/
structure FunctionInfo where
  name : String
  description : String
  usage : String
  arguments : List ArgumentInfo
  returns : String
  examples : List String
  category : String

/-- The numbers of required arguments and of all. -/
def FunctionInfo.arity (info : FunctionInfo) : Nat × Nat :=
  ((info.arguments.filter (·.default.isNone)).length, info.arguments.length)

/-- A function on operands. A failure is an error among its results. -/
structure Function where
  info : FunctionInfo
  isAsync : Bool := false
  calculate : List Operand → Operand
  calculateAwaited : List Operand → Operand := calculate

/-- The result of a call. One that can wait awaits a function that asks for it. -/
def Function.invoke (f : Function) (awaiting : Bool) (args : List Operand) : Operand :=
  if awaiting && f.isAsync then f.calculateAwaited args else f.calculate args

end Spreadsheet
