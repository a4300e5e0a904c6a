import Spreadsheet.Store.Operand
import Spreadsheet.Value.Comparison

/-!
Criteria of conditional functions, such as `>40`, `test*` or `<>x`.
-/

namespace Spreadsheet

/-- A condition on the value of a cell. -/
structure Criteria where
  relation : Relation
  comparand : Value

/-- Whether the other side is a text with wildcards. -/
def Criteria.isPattern (c : Criteria) : Bool :=
  match c.comparand with
  | .text s => isWildcardPattern s
  | _ => false

/-- The criteria written in a text: a relation, equality if it is left out, and a literal. -/
def Criteria.ofText (text : String) : Criteria :=
  let (relation, rest) := (Relation.split? text.toList).getD (.equal, text.toList)
  ⟨relation, if rest.isEmpty then .text "" else .ofLiteral (.ofList rest)⟩

/-- The criteria that an argument stands for: a text is read, null is the empty text, and any other
single value is compared for equality. -/
def Criteria.ofOperand? (arg : Operand) : Except FormulaError Criteria :=
  if arg.isRange ∧ arg.shape ≠ (1, 1) then
    .error ⟨.value, some "Criteria must be a single value"⟩
  else
    match arg.scalar with
    | .error e => .error e
    | .text s => .ok (.ofText s)
    | .null => .ok ⟨.equal, .text ""⟩
    | v => .ok ⟨.equal, v⟩

/-- Whether a cell meets the condition; one with an error never does. -/
def Criteria.accepts (c : Criteria) (cell : Value) : Bool :=
  let outcome :=
    if c.isPattern then cell.relatesToPattern c.relation c.comparand
    else cell.relates c.relation c.comparand
  outcome.asBool? = some true

end Spreadsheet
