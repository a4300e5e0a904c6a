import Spreadsheet.Formula.Operator
import Spreadsheet.Formula.Scope
import Spreadsheet.Function.Basic

/-!
Formulas as trees of nodes. A node knows what it computes and keeps the result of its last
evaluation. The children of a lambda are the arguments of its invocation; its body is no child.
-/

namespace Spreadsheet

/-! ## Classes of nodes -/

/-- What a node computes. -/
inductive NodeClass where
  | value
  | operator
  | function
  | reference
  | lambda
  /-- A parameter of a lambda around the node. -/
  | parameter
  | error
deriving DecidableEq, Repr

def NodeClass.all : List NodeClass :=
  [.value, .operator, .function, .reference, .lambda, .parameter, .error]

/-- The rank of a class among those that a token could belong to; the highest one wins. -/
def NodeClass.priority : NodeClass → Nat
  | .parameter => 60
  | .lambda => 50
  | .function => 40
  | .operator => 30
  | .value => 20
  | .reference => 10
  | .error => 0

/-! ## Nodes -/

/-- A node of a formula, with its token and the result of its last evaluation. -/
inductive Node where
  | literal (token : String) (value : Value) (result : Option Operand)
  | failure (token : String) (error : FormulaError) (result : Option Operand)
  | operator (token : String) (op : Operator) (operands : List Node) (result : Option Operand)
  | function (token : String) (f : Function) (arguments : List Node) (result : Option Operand)
  | reference (token unit sheet : String) (range : Range) (result : Option Operand)
  /-- The parameter, named by its token, as seen from a scope. -/
  | parameter (token : String) (scope : Scope) (result : Option Operand)
  /-- A lambda with a scope for its parameters, and with arguments if it is invoked. -/
  | lambda (token : String) (parameters : List String) (scope : Scope) (body : Node)
    (invocation : Option (List Node)) (result : Option Operand)

def Node.nodeClass : Node → NodeClass
  | .literal .. => .value
  | .failure .. => .error
  | .operator .. => .operator
  | .function .. => .function
  | .reference .. => .reference
  | .parameter .. => .parameter
  | .lambda .. => .lambda

def Node.token : Node → String
  | .literal token .. | .failure token .. | .operator token .. | .function token ..
  | .reference token .. | .parameter token .. | .lambda token .. => token

/-- The result of the last evaluation of a node. -/
def Node.result? : Node → Option Operand
  | .literal _ _ result | .failure _ _ result | .operator _ _ _ result | .function _ _ _ result
  | .reference _ _ _ _ result | .parameter _ _ result | .lambda _ _ _ _ _ result => result

/-- The nodes that are evaluated before a node. -/
def Node.children : Node → List Node
  | .operator _ _ children _ | .function _ _ children _ | .lambda _ _ _ _ (some children) _ =>
    children
  | _ => []

def Node.body? : Node → Option Node
  | .lambda _ _ _ body _ _ => some body
  | _ => none

def Node.error? : Node → Option FormulaError
  | .failure _ e _ => some e
  | _ => none

def FormulaError.notEvaluated : FormulaError :=
  ⟨.value, some "Operand was not evaluated"⟩

/-- The result of the last evaluation of a node, as an operand of another one. -/
def Node.operand (n : Node) : Operand :=
  n.result?.getD (.ofError .notEvaluated)

/-! ## Asynchronous calls -/

def Node.callsAsync : Node → Bool
  | .function _ f _ _ => f.isAsync
  | _ => false

mutual

/-- Whether a node, one of its children or its body has to be awaited. -/
def Node.isAsync : Node → Bool
  | .literal .. | .failure .. | .reference .. | .parameter .. => false
  | .operator _ _ operands _ => Node.anyAsync operands
  | .function _ f arguments _ => Node.anyAsync arguments || f.isAsync
  | .lambda _ _ _ body none _ => Node.isAsync body
  | .lambda _ _ _ body (some arguments) _ => Node.anyAsync arguments || Node.isAsync body

def Node.anyAsync : List Node → Bool
  | [] => false
  | n :: rest => Node.isAsync n || Node.anyAsync rest

end

mutual

/-- The node and all nodes below it, bodies of lambdas included. -/
def Node.nodes : Node → List Node
  | n@(.operator _ _ operands _) => n :: Node.nodesOfAll operands
  | n@(.function _ _ arguments _) => n :: Node.nodesOfAll arguments
  | n@(.lambda _ _ _ body none _) => n :: Node.nodes body
  | n@(.lambda _ _ _ body (some arguments) _) => n :: (Node.nodesOfAll arguments ++ Node.nodes body)
  | n => [n]

def Node.nodesOfAll : List Node → List Node
  | [] => []
  | n :: rest => Node.nodes n ++ Node.nodesOfAll rest

end

/-- Whether an asynchronous function is called anywhere in the tree. -/
def Node.containsAsyncCall (n : Node) : Bool :=
  n.nodes.any Node.callsAsync

end Spreadsheet
