import Spreadsheet.Formula.Node
import Spreadsheet.Function.Registry
import Spreadsheet.Text.Escape

/-!
Outlines of formulas, scopes, registries and layers, for inspection.
-/

namespace Spreadsheet

def outlineRecord (name : String) (fields : List (String × String)) : String :=
  name ++ " \x7b " ++ ", ".intercalate (fields.map fun (field, text) => field ++ ": " ++ text)
    ++ " \x7d"

def outlineList (items : List String) : String :=
  "[" ++ ", ".intercalate items ++ "]"

def outlineBool (b : Bool) : String :=
  if b then "true" else "false"

/-! ## Formulas -/

def NodeClass.name : NodeClass → String
  | .value => "Value"
  | .operator => "Operator"
  | .function => "Function"
  | .reference => "Reference"
  | .lambda => "Lambda"
  | .parameter => "LambdaParameter"
  | .error => "Error"

/-- The outline of a node that has not been evaluated, from those of its children and its body. -/
def Node.outlineOf (n : Node) (children : List String) (body : Option String) : String :=
  outlineRecord "AstNode"
    ([("token", escapeText n.token), ("type", n.nodeClass.name),
        ("is_async", outlineBool n.isAsync), ("children", outlineList children)]
      ++ body.toList.map (fun text => ("body", text)) ++ [("result", "None")])

mutual

def Node.outline : Node → String
  | n@(.operator _ _ operands _) => n.outlineOf (Node.outlines operands) none
  | n@(.function _ _ arguments _) => n.outlineOf (Node.outlines arguments) none
  | n@(.lambda _ _ _ body none _) => n.outlineOf [] (some (Node.outline body))
  | n@(.lambda _ _ _ body (some arguments) _) =>
    n.outlineOf (Node.outlines arguments) (some (Node.outline body))
  | n => n.outlineOf [] none

def Node.outlines : List Node → List String
  | [] => []
  | n :: rest => Node.outline n :: Node.outlines rest

end

/-! ## Scopes, registries and layers -/

/-- The outline of a scope with the names bound in it. -/
def Environment.outline (env : Environment) (s : Scope) : String :=
  outlineRecord "LambdaScope"
    [("bindings", outlineList ((env.frame s.id).map fun entry => escapeText entry.1)),
      ("nested", outlineBool s.parent?.isSome)]

/-- The outline of a registry with the names of its functions. -/
def Registry.outline (registry : Registry) : String :=
  outlineRecord "FunctionRegistry" [("functions", outlineList (registry.names.map escapeText))]

/-- The outline of layers, which tells how many they are. -/
def outlineLayers (layers : Layers) : String :=
  outlineRecord "DataLayers" [("layers", toString layers.length)]

end Spreadsheet
