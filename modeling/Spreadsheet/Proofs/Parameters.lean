import Spreadsheet.Proofs.Invocations

/-!
# Invocations with too few arguments

An invocation with fewer arguments than parameters leaves the last ones unbound; their names fall
through to the invocations further out, and where none of these binds them either they are an error
(`Session.result_of_unapplied`).
-/

namespace Spreadsheet

/-- Only as many elements of a list are paired as the other list has. -/
theorem mem_take_of_mem_zip {α β : Type} {xs : List α} {ys : List β} {entry : α × β}
    (member : entry ∈ xs.zip ys) : entry.1 ∈ xs.take ys.length := by
  induction xs generalizing ys with
  | nil => cases member
  | cons x xs ih =>
    cases ys with
    | nil => cases member
    | cons y ys =>
      rw [List.length_cons, List.take_succ_cons]
      rcases List.mem_cons.mp member with rfl | later
      · exact List.mem_cons_self
      · exact List.mem_cons_of_mem _ (ih later)

section Unapplied

variable {v : Invocation} {name : String}

/-- A parameter that is left without an argument is declared all the same. -/
theorem Invocation.declares_of_unapplied
    (unapplied : v.unapplied.any (equalIgnoringAsciiCase · name)) : v.declares name := by
  obtain ⟨p, member, same⟩ := List.any_eq_true.mp unapplied
  exact List.any_eq_true.mpr ⟨p, List.mem_of_mem_drop member, same⟩

/-- A parameter that is left without an argument has no binding, if the names of the parameters
differ in more than case. -/
theorem Invocation.argument?_of_unapplied (ascii : ∀ p ∈ v.parameters, isAscii p)
    (distinct : v.parameters.Pairwise fun p q => ¬ equalIgnoringAsciiCase p q)
    (unapplied : v.unapplied.any (equalIgnoringAsciiCase · name)) : v.argument? name = none := by
  obtain ⟨p, left, same⟩ := List.any_eq_true.mp unapplied
  have nameAscii : isAscii name :=
    isAscii_of_equalIgnoringAsciiCase (ascii p (List.mem_of_mem_drop left)) same
  rw [← List.take_append_drop v.arguments.length v.parameters, List.pairwise_append] at distinct
  rw [argument?, Option.map_eq_none_iff, List.find?_eq_none]
  intro entry member capital
  have bound : entry.1 ∈ v.parameters.take v.arguments.length :=
    mem_take_of_mem_zip (List.mem_reverse.mp member)
  have alike : equalIgnoringAsciiCase entry.1 name :=
    (upperText_eq_iff (ascii _ (List.mem_of_mem_take bound)) nameAscii).mp (beq_iff_eq.mp capital)
  simp only [equalIgnoringAsciiCase, beq_iff_eq] at alike same distinct
  exact distinct.2.2 entry.1 bound p left (alike.trans same.symm)

end Unapplied

/-- What a parameter without an argument stands for. In an evaluated formula, let a parameter be
that of an invocation whose parameters have ASCII names, no two of them alike up to case, and be one
of those that are left without an argument. If no invocation further out binds its name, then its
result is `#SPILL!`; otherwise the name falls through to the innermost invocation that does, and its
result is that of the argument there. -/
theorem Session.result_of_unapplied {b : Builder} {t : ParseTree} {s : Session} {awaiting : Bool}
    {f g : Formula} {o : Occurrence} {inner outer : List Invocation} {v : Invocation}
    (tree : f.root.unevaluated = b.build t)
    (evaluated : (s.evaluate awaiting (some f)).formula = some g)
    (occurs : o ∈ g.root.occurrences []) (around : o.around = inner ++ v :: outer)
    (innermost : ∀ w ∈ inner, ¬ w.declares o.token) (ascii : ∀ p ∈ v.parameters, isAscii p)
    (distinct : v.parameters.Pairwise fun p q => ¬ equalIgnoringAsciiCase p q)
    (unapplied : v.unapplied.any (equalIgnoringAsciiCase · o.token)) :
    (outer.findSome? (·.argument? o.token) = none →
      o.result = some (.ofError (.unboundParameter (upperText o.token)))) ∧
    ∀ n, outer.findSome? (·.argument? o.token) = some n →
      o.around.length ≤ s.config.options.maxParameterDepth → o.result = some n.operand := by
  have lookedUp := lookedUp_of_evaluate tree evaluated
  have declares := Invocation.declares_of_unapplied unapplied
  have missing := Invocation.argument?_of_unapplied ascii distinct unapplied
  have levels : (v :: outer).findSome? (·.argument? (upperText o.token)) =
      outer.findSome? (·.argument? o.token) := by
    simp only [Invocation.argument?_congr upperText_upperText, List.findSome?_cons, missing]
  obtain ⟨unbound, operand⟩ :=
    (lookedUp o occurs).resolved inner v outer around innermost declares
  rw [levels] at unbound
  refine ⟨unbound, fun n found shallow => ?_⟩
  rw [operand shallow, operandInside, levels, found]

/-- A name that neither of two invocations binds, although the inner one declares it. -/
theorem Session.result_of_unapplied_twice :
    let s : Session := { config := { unit := "book", sheet := "one" } }
    let inner := (ParseTree.lambda ["x", "y"] (.leaf "y")).invoke []
    let t := (ParseTree.lambda ["x"] inner).invoke [.leaf "TRUE"]
    let f : Formula := ⟨(Builder.standard s.config).build t, {}⟩
    ∃ g, (s.evaluate false (some f)).formula = some g ∧
      ∃ o ∈ g.root.occurrences [], o.result = some (.ofError (.unboundParameter "Y")) := by
  intro s inner t f
  have once : (Node.occurrences [] (((Builder.standard s.config).build t).evaluate s.surroundings
      awaitsNothing {}).1).map (fun o => (o.around.map fun v => (v.parameters, v.arguments.length),
        o.token)) = [([(["x", "y"], 0), (["x"], 1)], "y")] := by
    rw [Builder.standard_eq]
    decide +kernel
  obtain ⟨o, occurs, shape⟩ := List.map_eq_singleton_iff.mp once
  have member := List.mem_singleton_self o
  rw [← occurs] at member
  rcases o with ⟨around, token, scope, result⟩
  obtain ⟨levels, rfl⟩ := Prod.mk.inj shape
  obtain ⟨⟨parameters, scope', arguments⟩, rest, rfl, own, others⟩ :=
    List.map_eq_cons_iff.mp levels
  obtain ⟨⟨parameters', scope'', arguments'⟩, rfl, outside⟩ := List.map_eq_singleton_iff.mp others
  obtain ⟨rfl, missing⟩ := Prod.mk.inj own
  obtain rfl := List.length_eq_zero_iff.mp missing
  obtain ⟨rfl, one⟩ := Prod.mk.inj outside
  obtain ⟨n, rfl⟩ := List.length_eq_one_iff.mp one
  have fresh : f.root.unevaluated = (Builder.standard s.config).build t :=
    Builder.invariant_unevaluated.make t
  have evaluated : (s.evaluate false (some f)).formula =
      let r := f.root.evaluate s.surroundings awaitsNothing f.environment
      some ⟨r.1, r.2⟩ := by
    rw [evaluate_eq]
    rfl
  have ascii : ∀ p ∈ ["x", "y"], isAscii p := by decide +kernel
  have distinct : ["x", "y"].Pairwise fun p q => ¬ equalIgnoringAsciiCase p q := by decide +kernel
  have unapplied : ["x", "y"].any (equalIgnoringAsciiCase · "y") := by decide +kernel
  have capitals : (upperText "x" == upperText "y") = false ∧ upperText "y" = "Y" := by
    decide +kernel
  have unbound : ([⟨["x"], scope'', [n]⟩] : List Invocation).findSome? (·.argument? "y") = none := by
    simp [Invocation.argument?, capitals.1]
  have innermost : ∀ w ∈ ([] : List Invocation), ¬ w.declares "y" :=
    fun w none => absurd none List.not_mem_nil
  have around : ([⟨["x", "y"], scope', []⟩, ⟨["x"], scope'', [n]⟩] : List Invocation) =
      [] ++ ⟨["x", "y"], scope', []⟩ :: [⟨["x"], scope'', [n]⟩] := rfl
  obtain ⟨spill, -⟩ :=
    result_of_unapplied fresh evaluated member around innermost ascii distinct unapplied
  replace spill := spill unbound
  rw [capitals.2] at spill
  exact ⟨_, evaluated, _, member, spill⟩

/-- A name that the inner of two invocations leaves without an argument, and the outer one binds,
is no `#SPILL!`. -/
theorem Session.unapplied_of_same_name :
    let s : Session := { config := { unit := "book", sheet := "one" } }
    let inner := (ParseTree.lambda ["x"] (.leaf "x")).invoke []
    let t := (ParseTree.lambda ["x"] inner).invoke [.leaf "TRUE"]
    let f : Formula := ⟨(Builder.standard s.config).build t, {}⟩
    ¬ ∀ g ∈ (s.evaluate false (some f)).formula, ∀ o ∈ g.root.occurrences [],
      ∀ inner v outer, o.around = inner ++ v :: outer → (∀ w ∈ inner, ¬ w.declares o.token) →
        (∀ p ∈ v.parameters, isAscii p) →
        v.parameters.Pairwise (fun p q => ¬ equalIgnoringAsciiCase p q) →
        v.unapplied.any (equalIgnoringAsciiCase · o.token) →
        ∃ message, o.result = some (.ofError ⟨.spill, message⟩) := by
  intro s inner t f law
  rw [evaluate_eq] at law
  specialize law _ rfl
  have once : (Node.occurrences [] (((Builder.standard s.config).build t).evaluate s.surroundings
      awaitsNothing {}).1).map (fun o => (o.around.map fun v => (v.parameters, v.arguments.length),
        o.token, o.result.map (·.force.asBool?))) =
      [([(["x"], 0), (["x"], 1)], "x", some (some true))] := by
    rw [Builder.standard_eq]
    decide +kernel
  obtain ⟨o, occurs, shape⟩ := List.map_eq_singleton_iff.mp once
  have member := List.mem_singleton_self o
  rw [← occurs] at member
  have lawHere := law o member
  rcases o with ⟨around, token, scope, result⟩
  obtain ⟨levels, rest⟩ := Prod.mk.inj shape
  obtain ⟨rfl, value⟩ := Prod.mk.inj rest
  obtain ⟨⟨parameters, scope', arguments⟩, outer, rfl, own, -⟩ := List.map_eq_cons_iff.mp levels
  obtain ⟨rfl, missing⟩ := Prod.mk.inj own
  obtain rfl := List.length_eq_zero_iff.mp missing
  have ascii : ∀ p ∈ ["x"], isAscii p := by decide +kernel
  have unapplied : ["x"].any (equalIgnoringAsciiCase · "x") := by decide +kernel
  obtain ⟨message, rfl⟩ := lawHere [] _ outer rfl
    (fun w member => absurd member List.not_mem_nil) ascii (List.pairwise_singleton _ _) unapplied
  cases value

end Spreadsheet
