import Spreadsheet.Value.Arithmetic
import Spreadsheet.Value.Comparison
import Spreadsheet.Value.Concatenation

/-!
Operators of formulas.
-/

namespace Spreadsheet

/-- An operator on one or two values. -/
inductive Operator where
  | arithmetic (op : Arithmetic)
  | concatenate
  | compare (r : Relation)
  | negate
  | unaryPlus
  | percent
deriving DecidableEq, Repr

/-- The operator that a token denotes between or beside a number of operands. -/
def Operator.ofToken? (token : String) (operands : Nat) : Option Operator :=
  match operands, token with
  | 2, "+" => some (.arithmetic .plus)
  | 2, "-" => some (.arithmetic .minus)
  | 2, "*" => some (.arithmetic .times)
  | 2, "/" => some (.arithmetic .divide)
  | 2, "^" => some (.arithmetic .power)
  | 2, "&" => some .concatenate
  | 2, other => (Relation.ofToken? other).map .compare
  | 1, "-" => some .negate
  | 1, "+" => some .unaryPlus
  | 1, "%" => some .percent
  | _, _ => none

def Operator.arity : Operator → Nat
  | .negate | .unaryPlus | .percent => 1
  | _ => 2

def Arithmetic.name : Arithmetic → String
  | .plus => "Plus"
  | .minus => "Minus"
  | .times => "Multiply"
  | .divide => "Divide"
  | .power => "Power"

def Operator.name : Operator → String
  | .arithmetic op => op.name
  | .concatenate => "Concatenate"
  | .compare r => "Compare(" ++ r.name ++ ")"
  | .negate => "Negate"
  | .unaryPlus => "UnaryPlus"
  | .percent => "Percent"

/-- The value of an operator on its operands; any other number of them is an error. -/
def Operator.apply : Operator → List Value → Value
  | .arithmetic op, [x, y] => x.arithmetic op y
  | .concatenate, [x, y] => x.followedBy y
  | .compare r, [x, y] => x.relates r y
  | .negate, [x] => x.negative
  | .unaryPlus, [x] => x
  | .percent, [x] => x.percent
  | op, operands => .error (.argumentCount op.name (toString op.arity) operands.length)

end Spreadsheet
