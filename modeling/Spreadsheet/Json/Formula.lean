import Spreadsheet.Engine
import Spreadsheet.Json.Store

/-!
Stored forms of parse trees, operators, classes of nodes, limits, descriptions of functions, and
outcomes.
-/

namespace Spreadsheet

/-! ## Parse trees -/

/-- A token with its children, which have been written already. -/
def ParseTree.nodeJson (token : String) (children : List Json) (isCall : Bool)
    (invocation : Option (List Json)) : Json :=
  .ofFields [("token", some (.str token)),
    ("children", if children.isEmpty then none else some (.arr children)),
    ("is_call", some (.bool isCall)), ("invocation", invocation.map .arr)]

mutual

/-- A parse tree; children are left out when there are none. -/
def ParseTree.toJson : ParseTree → Json
  | .node token children isCall none =>
    ParseTree.nodeJson token (ParseTree.toJsons children) isCall none
  | .node token children isCall (some arguments) =>
    ParseTree.nodeJson token (ParseTree.toJsons children) isCall
      (some (ParseTree.toJsons arguments))

def ParseTree.toJsons : List ParseTree → List Json
  | [] => []
  | t :: rest => ParseTree.toJson t :: ParseTree.toJsons rest

end

/-- Reads whether a token is called; the field may be missing. -/
def isCallField? : Option Json → Option Bool
  | none => some false
  | some j => j.toBool?

mutual

/-- Reads a parse tree from its fields, given by name or in order. All but the token may be
missing. -/
def ParseTree.ofJson? : Json → Option ParseTree
  | .obj fields => do
    let token ← fields.lookup "token" >>= Json.toStr?
    let isCall ← isCallField? (fields.lookup "is_call")
    return .node token (← ParseTree.childrenField? fields) isCall
      (← ParseTree.invocationField? fields)
  | .arr [token] => do return .node (← token.toStr?) [] false none
  | .arr [token, children] => do
    return .node (← token.toStr?) (← ParseTree.trees? children) false none
  | .arr [token, children, isCall] => do
    return .node (← token.toStr?) (← ParseTree.trees? children) (← isCall.toBool?) none
  | .arr [token, children, isCall, invocation] => do
    return .node (← token.toStr?) (← ParseTree.trees? children) (← isCall.toBool?)
      (← ParseTree.optionalTrees? invocation)
  | _ => none

def ParseTree.childrenField? : List (String × Json) → Option (List ParseTree)
  | [] => some []
  | (name, content) :: rest =>
    if name = "children" then ParseTree.trees? content else ParseTree.childrenField? rest

/-- The arguments of an invocation among the fields of a parse tree. -/
def ParseTree.invocationField? : List (String × Json) → Option (Option (List ParseTree))
  | [] => some none
  | (name, content) :: rest =>
    if name = "invocation" then ParseTree.optionalTrees? content
    else ParseTree.invocationField? rest

def ParseTree.trees? : Json → Option (List ParseTree)
  | .arr items => ParseTree.treesOf? items
  | _ => none

/-- Reads a list of parse trees, or null for none. -/
def ParseTree.optionalTrees? : Json → Option (Option (List ParseTree))
  | .null => some none
  | .arr items => (ParseTree.treesOf? items).map some
  | _ => none

def ParseTree.treesOf? : List Json → Option (List ParseTree)
  | [] => some []
  | item :: rest => do return (← ParseTree.ofJson? item) :: (← ParseTree.treesOf? rest)

end

/-! ## Operators and classes of nodes -/

def Operator.plain : List Operator :=
  [.arithmetic .plus, .arithmetic .minus, .arithmetic .times, .arithmetic .divide,
    .arithmetic .power, .concatenate, .negate, .unaryPlus, .percent]

/-- An operator by its name; relations are grouped. -/
def Operator.toJson : Operator → Json
  | .compare r => .obj [("Compare", r.toJson)]
  | op => .str op.name

def Operator.ofJson? : Json → Option Operator
  | .obj [("Compare", r)] => (Relation.ofJson? r).map .compare
  | j => do
    let name ← j.toCaseName?
    plain.find? fun op => op.name == name

def NodeClass.storedName : NodeClass → String
  | .value => "VALUE"
  | .operator => "OPERATOR"
  | .function => "FUNCTION"
  | .reference => "REFERENCE"
  | .lambda => "LAMBDA"
  | .parameter => "LAMBDA_PARAMETER"
  | .error => "ERROR"

def NodeClass.toJson (c : NodeClass) : Json :=
  .str c.storedName

def NodeClass.ofJson? (j : Json) : Option NodeClass := do
  let name ← j.toCaseName?
  all.find? fun c => c.storedName == name

/-! ## Limits -/

def Options.toJson (o : Options) : Json :=
  .obj [("max_parameter_depth", .ofNat o.maxParameterDepth),
    ("max_spill_cells", .ofNat o.maxSpillCells)]

/-- Reads a limit; one that is missing has its default. -/
def limitField? (default : Nat) : Option Json → Option Nat
  | none => some default
  | some j => j.toNat?

def Options.ofJson? (j : Json) : Option Options := do
  let fields ← j.record? ["max_parameter_depth", "max_spill_cells"]
  let defaults : Options := {}
  let depth ← limitField? defaults.maxParameterDepth (fields.lookup "max_parameter_depth")
  let cells ← limitField? defaults.maxSpillCells (fields.lookup "max_spill_cells")
  return ⟨depth, cells⟩

/-! ## Functions and outcomes -/

def ArgumentInfo.toJson (a : ArgumentInfo) : Json :=
  .ofFields [("name", some (.str a.name)), ("typ", some (.str a.kind)),
    ("description", some (.str a.description)), ("optional", some (.bool a.default.isSome)),
    ("default", a.default.map .str)]

def FunctionInfo.toJson (info : FunctionInfo) : Json :=
  .obj [("name", .str info.name), ("description", .str info.description),
    ("usage", .str info.usage), ("args", .arr (info.arguments.map ArgumentInfo.toJson)),
    ("returns", .str info.returns), ("examples", .arr (info.examples.map .str)),
    ("category", .str info.category)]

/-- The value of a formula with its cell and the cells that it fills. -/
def Outcome.toJson (o : Outcome) : Json :=
  .obj [("value", o.value.toJson), ("row", .ofNat o.position.row),
    ("column", .ofNat o.position.column), ("runtime", o.runtime.toJson)]

end Spreadsheet
