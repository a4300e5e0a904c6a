import Spreadsheet.Function.Basic
import Spreadsheet.Text.Case
import Spreadsheet.Text.EditDistance
import Spreadsheet.Value.Comparison

/-!
Registries of functions by name, in which case does not count. A name that is missing is answered
with the names closest to it.
-/

namespace Spreadsheet

/-- Functions under the small forms of their names. -/
structure Registry where
  /-- The functions, one for each name. -/
  functions : List (String × Function) := []

instance : Inhabited Registry := ⟨{}⟩

/-- The registry with another function, in place of an earlier one of that name. -/
def Registry.register (registry : Registry) (f : Function) : Registry :=
  let key := lowerText f.info.name
  ⟨registry.functions.filter (fun entry => entry.1 ≠ key) ++ [(key, f)]⟩

/-- The registry of functions, later ones in place of earlier ones. -/
def Registry.ofList (functions : List Function) : Registry :=
  functions.foldl register {}

def Registry.find? (registry : Registry) (name : String) : Option Function :=
  registry.functions.lookup (lowerText name)

def Registry.contains (registry : Registry) (name : String) : Bool :=
  (registry.find? name).isSome

def Registry.size (registry : Registry) : Nat :=
  registry.functions.length

/-- The small forms of the names, in order. -/
def Registry.names (registry : Registry) : List String :=
  (registry.functions.map (·.1)).mergeSort fun a b => compareText a b ≠ .gt

/-- The greatest distance of a name that is suggested in place of another. -/
def Registry.suggestionDistance : Nat := 2

def Registry.suggestionCount : Nat := 5

/-- The names close to a missing one: the nearest first, names at one distance in order. -/
def Registry.suggestions (registry : Registry) (name : String) : List String :=
  let query := (lowerText name).toList
  let ranked := registry.names.map fun candidate => (editDistance query candidate.toList, candidate)
  let near := ranked.filter fun (distance, _) => distance ≤ suggestionDistance
  ((near.mergeSort fun a b => a.1 ≤ b.1).take suggestionCount).map (·.2)

def Registry.unknownFunction (registry : Registry) (name : String) : FormulaError :=
  match registry.suggestions name with
  | [] => .unknownName name
  | near =>
    (FormulaError.unknownName name).withMessage
      ("Unknown function: " ++ name ++ ". Similar: " ++ ", ".intercalate (near.map upperText))

/-- The result of a call by name, which may wait for the result or not. -/
def Registry.call (registry : Registry) (awaiting : Bool) (name : String) (args : List Operand) :
    Operand :=
  match registry.find? name with
  | some f => f.invoke awaiting args
  | none => .ofError (registry.unknownFunction name)

/-- What the functions of a category, or all of them, tell about themselves, in the order of their
names. -/
def Registry.list (registry : Registry) (category : Option String) : List FunctionInfo :=
  let infos := registry.functions.map (·.2.info)
  let chosen := infos.filter fun info =>
    match category with
    | none => true
    | some c => equalIgnoringAsciiCase info.category c
  chosen.mergeSort fun a b => compareText a.name b.name ≠ .gt

end Spreadsheet
