import Spreadsheet.Formula.Address
import Spreadsheet.Formula.Config
import Spreadsheet.Formula.Literal
import Spreadsheet.Formula.Node
import Spreadsheet.Formula.ParseTree

/-!
Nodes of formulas from parse trees.

A token may belong to several classes, as a parameter that is named like a cell does; the class of
the highest rank claims it, and what nothing claims is an error. Every lambda gets a scope of its
own, told apart from all others in the formula by the path from the root to the lambda. Building
never fails: whatever is wrong with a token becomes a node with an error.
-/

namespace Spreadsheet

/-! ## Classes of tokens -/

/-- A lambda whose body is being built. -/
structure OpenLambda where
  parameters : List String
  scope : Scope

/-- The scope of the innermost lambda with a parameter of a given name; the case of ASCII letters
does not count. -/
def parameterScope? (lambdas : List OpenLambda) (name : String) : Option Scope :=
  (lambdas.find? fun l => l.parameters.any (equalIgnoringAsciiCase · name)).map (·.scope)

def NodeClass.claims (lambdas : List OpenLambda) (t : ParseTree) : NodeClass → Bool
  | .parameter => t.isLeaf && (parameterScope? lambdas t.token).isSome
  | .lambda => t.isCall && equalIgnoringAsciiCase t.token "LAMBDA"
  | .function => t.isCall
  | .operator => !t.isCall && (Operator.ofToken? t.token t.children.length).isSome
  | .value => t.isLeaf && isLiteral t.token
  | .reference => t.isLeaf && looksLikeReference t.token
  | .error => false

/-- What nodes are built with: a configuration, and the classes that may claim tokens. -/
structure Builder where
  config : Config
  /-- The classes, in the order in which they are asked. -/
  classes : List NodeClass

/-- A builder with given classes, ordered by rank. -/
def Builder.ofClasses (config : Config) (classes : List NodeClass) : Builder :=
  ⟨config, classes.mergeSort fun c d => d.priority ≤ c.priority⟩

/-- The builder with all classes that claim tokens. -/
def Builder.standard (config : Config) : Builder :=
  .ofClasses config [.parameter, .lambda, .function, .operator, .value, .reference]

def Builder.classify (b : Builder) (lambdas : List OpenLambda) (t : ParseTree) : NodeClass :=
  (b.classes.find? (·.claims lambdas t)).getD .error

/-! ## Leaves -/

/-- The node of a parameter; one that no lambda declares is an error. -/
def Node.ofParameter (lambdas : List OpenLambda) (token : String) : Node :=
  match parameterScope? lambdas token with
  | some scope => .parameter token scope none
  | none => .failure token ⟨.spill, none⟩ none

/-- The sheet and the cells that a reference is to. -/
def Config.locate (config : Config) (token : String) : Except AddressError (String × Range) := do
  let address ← RangeAddress.ofText? token
  match address.sheet with
  | none => return (config.sheet, address.range)
  | some name =>
    match config.resolveSheet? name with
    | some sheet => return (sheet, address.range)
    | none => throw (.unknownSheet name)

def Node.ofReference (config : Config) (token : String) : Node :=
  match config.locate token with
  | .ok (sheet, range) => .reference token config.unit sheet range none
  | .error e => .failure token ⟨.reference, some e.message⟩ none

/-! ## Trees -/

/-- The names of parameters, each of them a token alone. -/
def lambdaParameters (declared : List ParseTree) : Except FormulaError (List String) :=
  declared.mapM fun t =>
    if t.isLeaf ∧ t.token ≠ "" then .ok t.token
    else .error ⟨.value, some ("Invalid LAMBDA parameter: " ++ t.token)⟩

mutual

/-- The node of a tree, taken as one of a given class. The arguments of an invocation are outside
the scope of the lambda's own parameters. -/
def Builder.make (b : Builder) (lambdas : List OpenLambda) (path : ScopeId) (c : NodeClass) :
    ParseTree → Node
  | .node token children _ invocation =>
    match c with
    | .parameter => .ofParameter lambdas token
    | .lambda =>
      match lambdaParameters children.dropLast with
      | .error e => .failure token e none
      | .ok parameters =>
        let scope := Scope.inside (lambdas.head?.map (·.scope)) path
        match Builder.makeLast b (⟨parameters, scope⟩ :: lambdas) (0 :: path) children with
        | none => .failure token (.argumentCount "LAMBDA" "at least 1" 0) none
        | some body =>
          .lambda token parameters scope body (Builder.makeInvocation b lambdas path invocation)
            none
    | .function =>
      match b.config.registry.find? token with
      | some f => .function token f (Builder.makeAll b lambdas path 0 children) none
      | none => .failure token (b.config.registry.unknownFunction token) none
    | .operator =>
      match Operator.ofToken? token children.length with
      | some op => .operator token op (Builder.makeAll b lambdas path 0 children) none
      | none => .failure token (.unknownName token) none
    | .value => .literal token (.ofConstant token) none
    | .reference => .ofReference b.config token
    | .error => .failure token (.unknownName token) none

/-- The nodes of trees under the classes that claim them; their paths count from `index`. -/
def Builder.makeAll (b : Builder) (lambdas : List OpenLambda) (path : ScopeId) (index : Nat) :
    List ParseTree → List Node
  | [] => []
  | t :: rest =>
    Builder.make b lambdas (index :: path) (b.classify lambdas t) t
      :: Builder.makeAll b lambdas path (index + 1) rest

/-- The node of the last of several trees. -/
def Builder.makeLast (b : Builder) (lambdas : List OpenLambda) (path : ScopeId) :
    List ParseTree → Option Node
  | [] => none
  | [t] => some (Builder.make b lambdas path (b.classify lambdas t) t)
  | _ :: rest => Builder.makeLast b lambdas path rest

/-- The arguments of an invocation. Their paths leave zero to the body. -/
def Builder.makeInvocation (b : Builder) (lambdas : List OpenLambda) (path : ScopeId) :
    Option (List ParseTree) → Option (List Node)
  | none => none
  | some arguments => some (Builder.makeAll b lambdas path 1 arguments)

end

/-- The node of a whole formula, taken as one of a given class. -/
def Builder.makeRoot (b : Builder) (c : NodeClass) (t : ParseTree) : Node :=
  b.make [] [] c t

def Builder.build (b : Builder) (t : ParseTree) : Node :=
  b.makeRoot (b.classify [] t) t

end Spreadsheet
