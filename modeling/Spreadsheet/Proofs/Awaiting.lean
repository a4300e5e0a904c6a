import Spreadsheet.Proofs.Evaluation

/-!
# Awaiting asynchronous functions

A session that waits for asynchronous functions makes the same calls in the same order as one that
does not, and differs only in how it makes those of asynchronous functions
(`Session.evaluate_awaiting`). If these have the same results either way, nothing else tells the
two evaluations apart.
-/

namespace Spreadsheet

mutual

/-- A call is awaited if its function is. -/
theorem Node.awaited_callsMade {awaits : Function → Bool} {n : Node} {c : Call}
    (made : c ∈ n.callsMade awaits) : c.awaited = awaits c.function := by
  match n with
  | .literal .. | .failure .. | .reference .. | .parameter .. | .lambda _ _ _ _ none _ =>
    simp only [callsMade, List.not_mem_nil] at made
  | .operator token op operands _ =>
    simp only [callsMade] at made
    exact awaited_callsMadeByAll made
  | .function token f arguments _ =>
    simp only [callsMade, List.mem_append, List.mem_singleton] at made
    rcases made with inArguments | rfl
    · exact awaited_callsMadeByAll inArguments
    · rfl
  | .lambda token parameters scope body (some arguments) _ =>
    simp only [callsMade, List.mem_append] at made
    rcases made with inArguments | inBody
    · exact awaited_callsMadeByAll inArguments
    · split at inBody
      · cases inBody
      · exact awaited_callsMade inBody

theorem Node.awaited_callsMadeByAll {awaits : Function → Bool} {nodes : List Node} {c : Call}
    (made : c ∈ Node.callsMadeByAll awaits nodes) : c.awaited = awaits c.function := by
  match nodes with
  | [] => cases made
  | n :: rest =>
    simp only [callsMadeByAll, List.mem_append] at made
    rcases made with inNode | inRest
    · exact awaited_callsMade inNode
    · exact awaited_callsMadeByAll inRest

end

/-- The result of a call that is awaited if its function is asynchronous. -/
theorem Call.result_of_awaited {c : Call} (awaited : c.awaited = c.function.isAsync) :
    c.result =
      if c.function.isAsync then c.function.calculateAwaited c.arguments
      else c.function.calculate c.arguments := by
  rw [result, awaited, Function.invoke, Bool.and_self]

/-- Waiting for asynchronous functions and not waiting for them.

The flag by which trees without asynchronous functions are told apart is exact at every node. Either
way the calls are those of the evaluated tree in post-order, so that the same functions are called
in the same order; one that is asynchronous is awaited if the session waits, and all others are
called at once. If asynchronous functions have the same results either way, then so does the
formula, and it keeps the same results in all of its nodes. -/
theorem Session.evaluate_awaiting {s : Session} {f : Formula} :
    let immediate := s.evaluate false (some f)
    let waiting := s.evaluate true (some f)
    (∀ n ∈ f.root.nodes, n.isAsync = n.containsAsyncCall) ∧
      (∃ g h, immediate.formula = some g ∧ waiting.formula = some h ∧
        g.root.unevaluated = f.root.unevaluated ∧ h.root.unevaluated = f.root.unevaluated ∧
        immediate.calls = g.root.callsMade awaitsNothing ∧
        waiting.calls = h.root.callsMade Function.isAsync) ∧
      waiting.calls.map Call.function = immediate.calls.map Call.function ∧
      (∀ c ∈ immediate.calls, c.result = c.function.calculate c.arguments) ∧
      (∀ c ∈ waiting.calls, c.result =
        if c.function.isAsync then c.function.calculateAwaited c.arguments
        else c.function.calculate c.arguments) ∧
      ((∀ g ∈ f.root.functions, g.isAsync →
          ∀ args, g.calculateAwaited args = g.calculate args) →
        waiting.result = immediate.result ∧ waiting.formula = immediate.formula) := by
  simp only [evaluate_eq]
  refine ⟨fun n _ => ?_, ⟨_, _, rfl, rfl, Node.unevaluated_evaluate _ _,
    Node.unevaluated_evaluate _ _, rfl, rfl⟩, ?_, fun c made => ?_, fun c made => ?_,
    fun same => ?_⟩
  · rw [Node.isAsync_eq, Node.containsAsyncCall_eq]
  · rw [Node.functions_callsMade_evaluate _ awaitsNothing,
      Node.functions_callsMade_evaluate _ awaitsNothing]
  · have immediate : c.awaited = false := Node.awaited_callsMade made
    rw [Call.result, immediate, Function.invoke, Bool.false_and, if_neg Bool.false_ne_true]
  · exact Call.result_of_awaited (Node.awaited_callsMade made)
  · have agree : ∀ g ∈ f.root.functions,
        g.invoke (awaitsWhen true g) = g.invoke (awaitsWhen false g) := by
      intro g member
      funext args
      simp only [awaitsWhen, if_true, Bool.false_eq_true, if_false, awaitsNothing, Function.invoke,
        Bool.and_self, Bool.false_and]
      split
      · rename_i async
        exact same g member async args
      · rfl
    rw [Node.evaluate_congr _ _ agree]
    exact ⟨rfl, rfl⟩

/-- An asynchronous function in the body of an invoked lambda. -/
theorem Session.evaluate_awaiting_fetch :
    let fetch : Function :=
      { info := ⟨"FETCH", "", "", [], "", [], ""⟩, isAsync := true, calculate := fun _ => .ofError .noFormula }
    let s : Session := { config := { unit := "book", sheet := "one" } }
    let f : Formula := ⟨.lambda "LAMBDA" ["x"] ⟨[], []⟩
      (.function "FETCH" fetch [.parameter "x" ⟨[], []⟩ none] none)
      (some [.literal "1" (.bool true) none]) none, {}⟩
    (∀ g ∈ f.root.functions, g.isAsync → ∀ args, g.calculateAwaited args = g.calculate args) ∧
      (s.evaluate true (some f)).result = (s.evaluate false (some f)).result := by
  intro fetch s f
  have same : ∀ g ∈ f.root.functions, g.isAsync →
      ∀ args, g.calculateAwaited args = g.calculate args := by
    intro g member _ args
    obtain rfl : g = fetch := List.mem_singleton.mp member
    rfl
  exact ⟨same, ((evaluate_awaiting (s := s) (f := f)).2.2.2.2.2 same).1⟩

end Spreadsheet
