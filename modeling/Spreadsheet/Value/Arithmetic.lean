import Spreadsheet.Number.Power
import Spreadsheet.Value.Broadcast

/-!
Arithmetic on values. Null counts as zero and a truth value as one or zero; a text is never a
number here. An undefined result is an error, so arithmetic never yields NaN.
-/

namespace Spreadsheet

/-- The arithmetic operations. -/
inductive Arithmetic where
  | plus
  | minus
  | times
  | divide
  | power
deriving DecidableEq, Repr

def Arithmetic.compute : Arithmetic → Number → Number → Except NumberError Number
  | .plus, x, y => .ok (x.add y)
  | .minus, x, y => .ok (x.sub y)
  | .times, x, y => .ok (x.mul y)
  | .divide, x, y => x.div? y
  | .power, x, y => x.pow? y

def Arithmetic.apply (op : Arithmetic) (x y : Number) : Value :=
  match op.compute x y with
  | .ok n => if n.isNaN then .ofErrorKind .number else .number n
  | .error e => .error (.ofNumberError e)

/-- The number that an operand of an operator stands for; a text stands for none. -/
def Value.operand? : Value → Option Number
  | .null => some (.ofInt 0)
  | .bool b => some (.ofBool b)
  | .number n => some n
  | _ => none

def Value.scalarArithmetic (op : Arithmetic) (x y : Value) : Value :=
  match x.operand?, y.operand? with
  | some m, some n => op.apply m n
  | _, _ => .error (.mismatch "Number" "Text")

def Value.arithmetic (op : Arithmetic) : Value → Value → Value :=
  .broadcast (.scalarArithmetic op)

def Value.plus : Value → Value → Value := arithmetic .plus

def Value.minus : Value → Value → Value := arithmetic .minus

def Value.times : Value → Value → Value := arithmetic .times

def Value.dividedBy : Value → Value → Value := arithmetic .divide

def Value.power : Value → Value → Value := arithmetic .power

def Value.negative (x : Value) : Value :=
  (Value.ofInt 0).minus x

def Value.reciprocal (x : Value) : Value :=
  (Value.ofInt 1).dividedBy x

def Value.percent (x : Value) : Value :=
  x.dividedBy (.ofInt 100)

end Spreadsheet
