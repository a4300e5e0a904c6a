import Spreadsheet.Store.Operand
import Spreadsheet.Text.Case

/-!
Scopes of parameters. Every lambda has a scope inside those of the lambdas around it. While
formulas are evaluated an `Environment` holds what the names of each scope are bound to: an operand,
or another parameter as seen from another scope. `Environment.resolve` follows such links to an
operand; it stops at a cycle, at a name without a binding, and at a given number of links.
-/

namespace Spreadsheet

/-- What tells scopes apart. -/
abbrev ScopeId := List Nat

/-- A scope and the scopes around it, from the inside outward. -/
structure Scope where
  id : ScopeId
  outer : List ScopeId
deriving DecidableEq

/-- A scope inside another one, or inside none. -/
def Scope.inside (around : Option Scope) (id : ScopeId) : Scope :=
  match around with
  | some s => ⟨id, s.id :: s.outer⟩
  | none => ⟨id, []⟩

def Scope.parent? (s : Scope) : Option Scope :=
  match s.outer with
  | id :: outer => some ⟨id, outer⟩
  | [] => none

/-- What a parameter is bound to. -/
inductive Binding where
  | operand (x : Operand)
  /-- A parameter as seen from a scope. -/
  | parameter (name : String) (scope : Scope)

/-- The bindings of scopes by the capital forms of the names. -/
structure Environment where
  frames : List (ScopeId × List (String × Binding)) := []

instance : Inhabited Environment := ⟨{}⟩

def Environment.frame (env : Environment) (id : ScopeId) : List (String × Binding) :=
  (env.frames.lookup id).getD []

/-- The environment with other bindings for one scope. -/
def Environment.setFrame (env : Environment) (id : ScopeId) (frame : List (String × Binding)) :
    Environment :=
  ⟨(id, frame) :: env.frames.filter (fun entry => entry.1 ≠ id)⟩

def Environment.clear (env : Environment) (s : Scope) : Environment :=
  env.setFrame s.id []

/-- The environment with a name of a scope bound, whatever it was bound to. -/
def Environment.bind (env : Environment) (s : Scope) (name : String) (binding : Binding) :
    Environment :=
  let key := upperText name
  env.setFrame s.id ((key, binding) :: (env.frame s.id).filter (fun entry => entry.1 ≠ key))

/-- The binding of a name in a scope or in the nearest one around it. -/
def Environment.find? (env : Environment) (s : Scope) (name : String) : Option Binding :=
  (s.id :: s.outer).findSome? fun id => (env.frame id).lookup (upperText name)

/-- The error of a parameter that is bound to itself through others. -/
def FormulaError.cyclicBinding (name : String) : FormulaError :=
  ⟨.spill, some ("Cyclic binding for " ++ name)⟩

def FormulaError.unboundParameter (name : String) : FormulaError :=
  ⟨.spill, some ("Unbound parameter " ++ name)⟩

/-- The error of a parameter with too many links to its operand. -/
def FormulaError.deepParameter (maxDepth : Nat) : FormulaError :=
  ⟨.spill, some ("Parameter chain deeper than " ++ toString maxDepth)⟩

/-- The operand that a parameter stands for, over at most `maxDepth` links. -/
def Environment.resolve (env : Environment) (maxDepth : Nat) (s : Scope) (name : String) :
    Except FormulaError Operand :=
  go (maxDepth + 1) [] s (upperText name)
where
  /-- Looks up `name` in `s` after `visited` names, at most `steps` of them. -/
  go : Nat → List (ScopeId × String) → Scope → String → Except FormulaError Operand
    | 0, _, _, _ => .error (.deepParameter maxDepth)
    | steps + 1, visited, s, name =>
      if (s.id, name) ∈ visited then .error (.cyclicBinding name)
      else
        match env.find? s name with
        | some (.operand x) => .ok x
        | some (.parameter next scope) => go steps ((s.id, name) :: visited) scope (upperText next)
        | none => .error (.unboundParameter name)

end Spreadsheet
