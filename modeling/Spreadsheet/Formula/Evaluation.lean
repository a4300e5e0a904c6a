import Spreadsheet.Formula.Node

/-!
Evaluation of formulas: children from left to right, then the node itself.

The arguments of an invocation are evaluated before its body, and the body exactly once; within it
a parameter stands for the operand of its argument. An argument that is a parameter itself is bound
as a link to that parameter. An evaluation changes nothing but the results kept in nodes and the
bindings of scopes; it records the calls of functions in the order in which they are made.

There are two walks over a tree. `Node.run` makes every call at once. `Node.runAwaiting` awaits the
calls of asynchronous functions, and leaves trees without such calls to the other walk.
-/

namespace Spreadsheet

/-- What nodes see while they are evaluated. -/
structure Surroundings where
  layers : Layers
  /-- The greatest number of links from a parameter to its operand. -/
  maxParameterDepth : Nat

/-- A call of a function. -/
structure Call where
  function : Function
  arguments : List Operand
  /-- Whether it was awaited. -/
  awaited : Bool

def Call.result (c : Call) : Operand :=
  c.function.invoke c.awaited c.arguments

/-- What an evaluation has changed so far. -/
structure Progress where
  environment : Environment
  /-- The calls, in order. -/
  calls : List Call := []

def Progress.record (p : Progress) (c : Call) : Progress :=
  { p with calls := p.calls ++ [c] }

/-- Makes a call. -/
def Call.perform (c : Call) : StateM Progress Operand := do
  modify (·.record c)
  return c.result

/-- What a parameter is bound to by an argument that has been evaluated. -/
def Node.binding : Node → Binding
  | .parameter name scope _ => .parameter name scope
  | n => .operand n.operand

/-- The environment with the parameters of one scope bound to arguments in order. Earlier bindings
of the scope are gone, and parameters without an argument stay unbound. -/
def Environment.bindArguments (env : Environment) (scope : Scope) (parameters : List String)
    (arguments : List Node) : Environment :=
  (parameters.zip arguments).foldl (fun env (name, argument) => env.bind scope name argument.binding)
    (env.clear scope)

def Progress.bindArguments (p : Progress) (scope : Scope) (parameters : List String)
    (arguments : List Node) : Progress :=
  { p with environment := p.environment.bindArguments scope parameters arguments }

/-- The operand of a parameter, or the error of finding none. -/
def Environment.lookup (env : Environment) (maxDepth : Nat) (scope : Scope) (name : String) :
    Operand :=
  match env.resolve maxDepth scope name with
  | .ok x => x
  | .error e => .ofError e

def FormulaError.neverCalled : FormulaError :=
  ⟨.value, some "LAMBDA defined but never called"⟩

/-- The operand of an operator on nodes that have been evaluated. -/
def Operator.applyTo (op : Operator) (operands : List Node) : Operand :=
  .value (op.apply (operands.map (·.operand.force)))

def FormulaError.tooManyArguments (parameters : List String) (arguments : List Node) :
    FormulaError :=
  .argumentCount "LAMBDA" (toString parameters.length) arguments.length

mutual

/-- Evaluates a node. -/
def Node.run (s : Surroundings) : Node → StateM Progress Node
  | .literal token v _ => return .literal token v (some (.value v))
  | .failure token e _ => return .failure token e (some (.ofError e))
  | .operator token op operands _ => do
    let operands ← Node.runAll s operands
    return .operator token op operands (some (op.applyTo operands))
  | .function token f arguments _ => do
    let arguments ← Node.runAll s arguments
    let x ← Call.perform ⟨f, arguments.map Node.operand, false⟩
    return .function token f arguments (some x)
  | .reference token unit sheet range _ =>
    return .reference token unit sheet range (some (.reference ⟨unit, sheet, range, s.layers⟩))
  | .parameter token scope _ => do
    let p ← get
    return .parameter token scope (some (p.environment.lookup s.maxParameterDepth scope token))
  | .lambda token parameters scope body none _ =>
    return .lambda token parameters scope body none (some (.ofError .neverCalled))
  | .lambda token parameters scope body (some arguments) _ => do
    let arguments ← Node.runAll s arguments
    if parameters.length < arguments.length then
      let e := FormulaError.tooManyArguments parameters arguments
      return .lambda token parameters scope body (some arguments) (some (.ofError e))
    else
      modify (·.bindArguments scope parameters arguments)
      let body ← Node.run s body
      return .lambda token parameters scope body (some arguments) (some body.operand)

/-- Evaluates nodes from left to right. -/
def Node.runAll (s : Surroundings) : List Node → StateM Progress (List Node)
  | [] => return []
  | n :: rest => do
    let n ← Node.run s n
    let rest ← Node.runAll s rest
    return n :: rest

end

mutual

/-- Evaluates a node and awaits the calls of asynchronous functions. -/
def Node.runAwaiting (s : Surroundings) (n : Node) : StateM Progress Node :=
  if n.isAsync then
    match n with
    | .operator token op operands _ => do
      let operands ← Node.runAllAwaiting s operands
      return .operator token op operands (some (op.applyTo operands))
    | .function token f arguments _ => do
      let arguments ← Node.runAllAwaiting s arguments
      let x ← Call.perform ⟨f, arguments.map Node.operand, f.isAsync⟩
      return .function token f arguments (some x)
    | .lambda token parameters scope body none _ =>
      return .lambda token parameters scope body none (some (.ofError .neverCalled))
    | .lambda token parameters scope body (some arguments) _ => do
      let arguments ← Node.runAllAwaiting s arguments
      if parameters.length < arguments.length then
        let e := FormulaError.tooManyArguments parameters arguments
        return .lambda token parameters scope body (some arguments) (some (.ofError e))
      else
        modify (·.bindArguments scope parameters arguments)
        let body ← Node.runAwaiting s body
        return .lambda token parameters scope body (some arguments) (some body.operand)
    | leaf => leaf.run s
  else n.run s

/-- Evaluates nodes from left to right and awaits the calls of asynchronous functions. -/
def Node.runAllAwaiting (s : Surroundings) : List Node → StateM Progress (List Node)
  | [] => return []
  | n :: rest => do
    let n ← Node.runAwaiting s n
    let rest ← Node.runAllAwaiting s rest
    return n :: rest

end

/-- A formula with the bindings that its last evaluation has left. -/
structure Formula where
  root : Node
  environment : Environment := {}

/-- The formula that a walk over its tree leaves, and the calls that were made. -/
def Formula.after (f : Formula) (walk : StateM Progress Node) : Formula × List Call :=
  let (root, progress) := walk.run ⟨f.environment, []⟩
  (⟨root, progress.environment⟩, progress.calls)

/-- Evaluates a formula, and lists the calls that it made. -/
def Formula.run (s : Surroundings) (f : Formula) : Formula × List Call :=
  f.after (f.root.run s)

/-- Evaluates a formula, and lists the calls that it made; those of asynchronous functions are
awaited. Without any, it is evaluated as ever. -/
def Formula.runAwaiting (s : Surroundings) (f : Formula) : Formula × List Call :=
  if f.root.containsAsyncCall then f.after (f.root.runAwaiting s) else f.run s

end Spreadsheet
