import Mathlib.Data.List.Forall2
import Spreadsheet.Function.Standard

/-!
# What standard functions see of their arguments

The standard functions ask an argument for its cells, its shape and its single value, whether it is
a range and whether it is an error, and for nothing else. So arguments that agree in these answers
give equal results (`calculate_eq_of_alike`).
-/

namespace Spreadsheet

/-- Whether two operands answer alike what standard functions ask of their arguments. -/
structure Operand.Alike (x y : Operand) : Prop where
  isRange : x.isRange = y.isRange
  shape : x.shape = y.shape
  cells : x.cells = y.cells
  scalar : x.scalar = y.scalar
  asError? : x.asError? = y.asError?

theorem Operand.Alike.refl {x : Operand} : Operand.Alike x x :=
  ⟨rfl, rfl, rfl, rfl, rfl⟩

section Congruence

variable {x y range range' criteria criteria' target target' : Operand} {xs ys : List Operand}

theorem addOperand_eq_of_alike (alike : Operand.Alike x y) (total : Number) :
    addOperand total x = addOperand total y := by
  rw [addOperand, addOperand, alike.isRange, alike.cells, alike.scalar]

theorem sumOperands_eq_of_alike (alike : List.Forall₂ Operand.Alike xs ys) (total : Number) :
    sumOperands total xs = sumOperands total ys := by
  induction alike generalizing total with
  | nil => rfl
  | cons first others ih =>
    rw [sumOperands, sumOperands, addOperand_eq_of_alike first]
    exact congrArg _ (funext ih)

theorem criteria_eq_of_alike (alike : Operand.Alike x y) :
    Criteria.ofOperand? x = Criteria.ofOperand? y := by
  rw [Criteria.ofOperand?, Criteria.ofOperand?, alike.isRange, alike.shape, alike.scalar]

theorem chooseCells_eq_of_alike (name : String) (ranges : Operand.Alike range range')
    (conditions : Operand.Alike criteria criteria') (targets : Operand.Alike target target') :
    chooseCells name range criteria target = chooseCells name range' criteria' target' := by
  simp only [chooseCells, ranges.asError?, ranges.shape, ranges.cells,
    criteria_eq_of_alike conditions, targets.asError?, targets.shape, targets.cells]

theorem chosenCells_eq_of_alike (name : String) (allowsTarget : Bool)
    (alike : List.Forall₂ Operand.Alike xs ys) :
    chosenCells name allowsTarget xs = chosenCells name allowsTarget ys := by
  have length := alike.length_eq
  match alike with
  | .nil => rfl
  | .cons _ .nil => rfl
  | .cons ranges (.cons conditions .nil) =>
    exact chooseCells_eq_of_alike name ranges conditions ranges
  | .cons ranges (.cons conditions (.cons targets .nil)) =>
    cases allowsTarget with
    | true => exact chooseCells_eq_of_alike name ranges conditions targets
    | false => rfl
  | .cons _ (.cons _ (.cons _ (.cons _ others))) =>
    simp only [chosenCells, length]

/-- A standard function has equal results for arguments that it cannot tell apart. -/
theorem calculate_eq_of_alike {f : Function} (standard : f ∈ standardFunctions)
    (alike : List.Forall₂ Operand.Alike xs ys) : f.calculate xs = f.calculate ys := by
  simp only [standardFunctions, List.mem_cons, List.not_mem_nil, or_false] at standard
  rcases standard with rfl | rfl | rfl | rfl
  · have empty : xs.isEmpty = ys.isEmpty := by cases alike <;> rfl
    simp only [Function.sum, empty, sumOperands_eq_of_alike alike]
  · simp only [Function.sumIf, chosenCells_eq_of_alike _ _ alike]
  · simp only [Function.countIf, chosenCells_eq_of_alike _ _ alike]
  · simp only [Function.averageIf, chosenCells_eq_of_alike _ _ alike]

/-- Standard functions are never awaited. -/
theorem isAsync_of_standard {f : Function} (standard : f ∈ standardFunctions) :
    f.isAsync = false := by
  simp only [standardFunctions, List.mem_cons, List.not_mem_nil, or_false] at standard
  rcases standard with rfl | rfl | rfl | rfl <;> rfl

/-- So a call of one makes no difference between waiting and not. -/
theorem Function.invoke_of_standard {f : Function} (standard : f ∈ standardFunctions)
    {awaiting : Bool} {xs : List Operand} : f.invoke awaiting xs = f.calculate xs := by
  rw [invoke, isAsync_of_standard standard, Bool.and_false, if_neg Bool.false_ne_true]

end Congruence

/-- Registering functions adds no others. -/
theorem Registry.mem_functions_foldl_register {registry : Registry} {functions : List Function}
    {entry : String × Function}
    (member : entry ∈ (functions.foldl register registry).functions) :
    entry ∈ registry.functions ∨ entry.2 ∈ functions := by
  induction functions generalizing registry with
  | nil => exact .inl member
  | cons f rest ih =>
    rcases ih member with before | later
    · rw [register] at before
      rcases List.mem_append.mp before with kept | added
      · exact .inl (List.mem_of_mem_filter kept)
      · rw [List.mem_singleton.mp added]
        exact .inr List.mem_cons_self
    · exact .inr (List.mem_cons_of_mem f later)

/-- The functions of the standard registry are the standard functions. -/
theorem mem_standardFunctions_of_find? {name : String} {f : Function}
    (found : Registry.standard.find? name = some f) : f ∈ standardFunctions := by
  obtain ⟨before, after, split, -⟩ := List.lookup_eq_some_iff.mp found
  have member : (lowerText name, f) ∈ Registry.standard.functions := by
    rw [split]
    exact List.mem_append_right before List.mem_cons_self
  exact (Registry.mem_functions_foldl_register member).resolve_left List.not_mem_nil

end Spreadsheet
