/-!
Parse trees of formulas, as a parser hands them over: operators hold their operands as children,
and calls their arguments. The children of a lambda are its parameters followed by its body, and
the arguments of its invocation stand apart from them.
-/

namespace Spreadsheet

/-- A parse tree. -/
inductive ParseTree where
  | node (token : String) (children : List ParseTree) (isCall : Bool)
    (invocation : Option (List ParseTree))

instance : Inhabited ParseTree := ⟨.node "" [] false none⟩

def ParseTree.token : ParseTree → String
  | .node token _ _ _ => token

def ParseTree.children : ParseTree → List ParseTree
  | .node _ children _ _ => children

def ParseTree.isCall : ParseTree → Bool
  | .node _ _ isCall _ => isCall

/-- The arguments of an invocation of the root. -/
def ParseTree.invocation : ParseTree → Option (List ParseTree)
  | .node _ _ _ invocation => invocation

def ParseTree.isLeaf (t : ParseTree) : Bool :=
  !t.isCall && t.children.isEmpty

def ParseTree.leaf (token : String) : ParseTree :=
  .node token [] false none

def ParseTree.call (name : String) (arguments : List ParseTree) : ParseTree :=
  .node name arguments true none

def ParseTree.binary (op : String) (left right : ParseTree) : ParseTree :=
  .node op [left, right] false none

def ParseTree.unary (op : String) (operand : ParseTree) : ParseTree :=
  .node op [operand] false none

def ParseTree.lambda (parameters : List String) (body : ParseTree) : ParseTree :=
  .call "LAMBDA" (parameters.map leaf ++ [body])

def ParseTree.invoke (arguments : List ParseTree) : ParseTree → ParseTree
  | .node token children isCall _ => .node token children isCall (some arguments)

end Spreadsheet
