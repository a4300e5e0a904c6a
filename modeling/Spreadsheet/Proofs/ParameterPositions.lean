import Spreadsheet.Proofs.Invocations

/-!
# Which argument a parameter stands for

Two comparisons decide which parameter a name means. A lambda declares a name up to the case of ASCII
letters; the bindings of its scope are told apart by full capital forms. Names alike in the first
way are alike in the second (`upperText_of_equalIgnoringAsciiCase`), but not the other way around:
of `ß` and `ss` the last one has the binding of both. So what a parameter stands for is the argument
at the last position with its capital form (`Session.result_of_position`), which need not be its own
(`Session.result_at_other_position`).
-/

namespace Spreadsheet

section Positions

variable {v : Invocation} {name : String}

/-- The argument bound to a name is at the last position with its capital form. -/
theorem Invocation.exists_position {n : Node} (bound : v.argument? name = some n) :
    ∃ k q, v.parameters[k]? = some q ∧ upperText q = upperText name ∧ v.arguments[k]? = some n ∧
      ∀ j r, v.parameters[j]? = some r → upperText r = upperText name →
        j < v.arguments.length → j ≤ k := by
  obtain ⟨⟨q, n⟩, first, rfl⟩ := Option.map_eq_some_iff.mp bound
  obtain ⟨capital, later, earlier, split, others⟩ := List.find?_eq_some_iff_append.mp first
  have entries : v.parameters.zip v.arguments = earlier.reverse ++ (q, n) :: later.reverse := by
    rw [← List.reverse_inj, split]
    simp
  have here : (v.parameters.zip v.arguments)[earlier.length]? = some (q, n) := by
    rw [entries, List.getElem?_append_right (by simp)]
    simp
  obtain ⟨parameter, argument⟩ := List.getElem?_zip_eq_some.mp here
  refine ⟨_, q, parameter, beq_iff_eq.mp capital, argument, fun j r position same short => ?_⟩
  by_contra beyond
  have there : (v.parameters.zip v.arguments)[j]? = some (r, v.arguments[j]) :=
    List.getElem?_zip_eq_some.mpr ⟨position, List.getElem?_eq_getElem short⟩
  have member : (r, v.arguments[j]) ∈ later := by
    rw [← List.mem_reverse]
    rw [entries, List.getElem?_append_right (by simp; omega), List.length_reverse,
      show j - earlier.length = j - earlier.length - 1 + 1 by omega, List.getElem?_cons_succ] at there
    exact List.mem_of_getElem? there
  simpa [same] using others _ member

/-- A declared name has an argument, if every parameter has one. -/
theorem Invocation.exists_argument {p : String} {i : Nat} (position : v.parameters[i]? = some p)
    (same : equalIgnoringAsciiCase p name) (short : i < v.arguments.length) :
    ∃ n, v.argument? name = some n := by
  have entry : (p, v.arguments[i]) ∈ (v.parameters.zip v.arguments).reverse :=
    List.mem_reverse.mpr (List.mem_of_getElem?
      (List.getElem?_zip_eq_some.mpr ⟨position, List.getElem?_eq_getElem short⟩))
  have found : ((v.parameters.zip v.arguments).reverse.find? fun entry =>
      upperText entry.1 == upperText name).isSome :=
    List.find?_isSome.mpr ⟨_, entry, beq_iff_eq.mpr (upperText_of_equalIgnoringAsciiCase same)⟩
  obtain ⟨entry, first⟩ := Option.isSome_iff_exists.mp found
  exact ⟨entry.2, by rw [argument?, first, Option.map_some]⟩

end Positions

section Links

variable {env : Environment} {maxDepth : Nat} {v : Invocation} {outer : List Invocation}

/-- A search inside invocations goes as with one step more, or ends at its limit. What was visited
further in does not matter. -/
theorem Invocations.Linked.go_succ (linked : Linked env maxDepth (v :: outer)) {limit steps : Nat}
    {visited visited' : List (ScopeId × String)} {name : String}
    (outside : ∀ entry ∈ visited, v.scope.id.length < entry.1.length)
    (outside' : ∀ entry ∈ visited', v.scope.id.length < entry.1.length) :
    Environment.resolve.go env limit steps visited v.scope name =
        .error (.deepParameter limit) ∨
      Environment.resolve.go env limit steps visited v.scope name =
        Environment.resolve.go env limit (steps + 1) visited' v.scope name := by
  induction steps generalizing v outer visited visited' name with
  | zero => exact .inl rfl
  | succ steps ih =>
    have fresh : ∀ {visited : List (ScopeId × String)},
        (∀ entry ∈ visited, v.scope.id.length < entry.1.length) → (v.scope.id, name) ∉ visited :=
      fun outside member => Nat.lt_irrefl _ (outside _ member)
    rw [Environment.resolve.go, Environment.resolve.go, if_neg (fresh outside),
      if_neg (fresh outside')]
    rcases linked.find?_cases name with none | ⟨x, operand⟩ | ⟨next, between, u, outermost, rfl, link⟩
    · rw [none]
      exact .inr rfl
    · rw [operand]
      exact .inr rfl
    · rw [link]
      obtain ⟨further, shorter⟩ := linked.outward
      have outward : ∀ {visited : List (ScopeId × String)},
          (∀ entry ∈ visited, v.scope.id.length < entry.1.length) →
            ∀ entry ∈ (v.scope.id, name) :: visited, u.scope.id.length < entry.1.length :=
        fun outside => List.forall_mem_cons.mpr
          ⟨shorter, fun entry member => Nat.lt_trans shorter (outside entry member)⟩
      exact ih further (outward outside) (outward outside')

/-- A name that an invocation binds stands for the operand of the argument, which if this is a
parameter itself may take one link too many. -/
theorem Invocations.Linked.lookup_of_argument (linked : Linked env maxDepth (v :: outer))
    {name : String} {n : Node} (bound : v.argument? name = some n) :
    env.lookup maxDepth v.scope name = n.operand ∨
      (∃ next scope kept, n = .parameter next scope kept) ∧ maxDepth < outer.length ∧
        env.lookup maxDepth v.scope name = .ofError (.deepParameter maxDepth) := by
  have found : (v :: outer).findSome? (·.argument? (upperText name)) = some n := by
    rw [List.findSome?_cons, Invocation.argument?_congr upperText_upperText, bound]
  by_cases shallow : outer.length ≤ maxDepth
  · refine .inl ?_
    rw [(linked.toBound.lookup_eq name).2 shallow, operandInside, found]
  have nearest : env.find? v.scope (upperText name) = some n.binding := by
    rw [linked.find?_eq, found, Option.map_some]
  obtain ⟨entry, first, rfl⟩ := Option.map_eq_some_iff.mp bound
  have argument : entry.2 ∈ v.arguments :=
    (List.of_mem_zip (List.mem_reverse.mp (List.mem_of_find?_eq_some first))).2
  have lookedUp := linked.lookedUp [] v outer rfl entry.2 argument
  rw [Environment.lookup, Environment.resolve, Environment.resolve.go, if_neg List.not_mem_nil,
    nearest]
  generalize entry.2 = n at lookedUp
  cases n with
  | literal | failure | operator | function | reference | lambda => exact .inl rfl
  | parameter next scope kept =>
    obtain ⟨⟨between, u, outermost, rfl, rfl⟩, rfl⟩ := lookedUp
    obtain ⟨further, shorter⟩ := linked.outward
    have visited : ∀ w ∈ [(v.scope.id, upperText name)], u.scope.id.length < w.1.length :=
      List.forall_mem_singleton.mpr shorter
    have onward : Environment.resolve.go env maxDepth maxDepth [(v.scope.id, upperText name)] u.scope
        (upperText next) = .error (.deepParameter maxDepth) ∨ _ :=
      further.go_succ visited fun w (member : w ∈ []) => absurd member List.not_mem_nil
    rcases onward with deep | same
    · exact .inr ⟨⟨_, _, _, rfl⟩, Nat.lt_of_not_le shallow, by simp only [Node.binding, deep]⟩
    · refine .inl ?_
      simp only [Node.binding, same]
      rfl

end Links

/-! ## The law -/

/-- What a parameter stands for when its lambda has an argument for each. In an evaluated formula,
let a parameter be that of an invocation with as many arguments as parameters, and be declared at a
position of it. Then it stands for the argument at the last position whose name has its capital
form, which is its own if no other name has. Only an argument that is a parameter itself may be out
of reach, namely when too many invocations are around this one. -/
theorem Session.result_of_position {b : Builder} {t : ParseTree} {s : Session} {awaiting : Bool}
    {f g : Formula} {o : Occurrence} {inner outer : List Invocation} {v : Invocation}
    (tree : f.root.unevaluated = b.build t)
    (evaluated : (s.evaluate awaiting (some f)).formula = some g)
    (occurs : o ∈ g.root.occurrences []) (around : o.around = inner ++ v :: outer)
    (innermost : ∀ w ∈ inner, ¬ w.declares o.token)
    (complete : v.arguments.length = v.parameters.length) {i : Nat} {p : String}
    (position : v.parameters[i]? = some p) (same : equalIgnoringAsciiCase p o.token) :
    ∃ k q n, v.parameters[k]? = some q ∧ v.arguments[k]? = some n ∧
      upperText q = upperText o.token ∧
      (∀ j r, v.parameters[j]? = some r → upperText r = upperText o.token → j ≤ k) ∧
      (v.parameters.Pairwise (fun q r => upperText q ≠ upperText r) → k = i) ∧
      (o.result = some n.operand ∨
        (∃ next scope kept, n = .parameter next scope kept) ∧
          s.config.options.maxParameterDepth < outer.length ∧
          o.result = some (.ofError (.deepParameter s.config.options.maxParameterDepth))) := by
  obtain ⟨env, linked, found, result⟩ := lookedUp_of_evaluate tree evaluated o occurs
  have declares : v.declares o.token :=
    List.any_eq_true.mpr ⟨p, List.mem_of_getElem? position, same⟩
  rw [around, find?_declares_of_innermost innermost declares] at found
  rw [around] at linked
  rw [← Option.some.inj found] at result
  have short : ∀ {j r}, v.parameters[j]? = some r → j < v.arguments.length := fun listed =>
    complete ▸ (List.getElem?_eq_some_iff.mp listed).1
  obtain ⟨n, bound⟩ := Invocation.exists_argument position same (short position)
  obtain ⟨k, q, parameter, capital, argument, last⟩ := Invocation.exists_position bound
  refine ⟨k, q, n, parameter, argument, capital,
    fun j r listed alike => last j r listed alike (short listed), fun distinct => ?_, ?_⟩
  · have alike := upperText_of_equalIgnoringAsciiCase same
    rcases Nat.lt_or_eq_of_le (last i p position alike (short position)) with before | own
    · obtain ⟨inside, rfl⟩ := List.getElem?_eq_some_iff.mp position
      obtain ⟨within, rfl⟩ := List.getElem?_eq_some_iff.mp parameter
      exact absurd (alike.trans capital.symm)
        (List.pairwise_iff_getElem.mp distinct i k inside within before)
    · exact own.symm
  · rw [result]
    exact (linked.of_append.lookup_of_argument bound).imp (congrArg some)
      fun ⟨link, deep, out⟩ => ⟨link, deep, congrArg some out⟩

/-- The number that an operand is, as a text. -/
def Operand.numeral? (x : Operand) : Option String :=
  x.force.asNumber?.map Number.toText

/-- An invocation whose two parameters are told apart where they are declared, and have one capital
form. -/
def eszett : ParseTree :=
  (ParseTree.lambda ["ß", "ss"] (.leaf "ß")).invoke [.leaf "1", .leaf "2"]

/-- The parameter in the body has the operand of the other one's argument. -/
theorem Session.occurrence_eszett :
    let s : Session := { config := { unit := "book", sheet := "one" } }
    let f : Formula := ⟨(Builder.standard s.config).build eszett, {}⟩
    ∃ g, (s.evaluate false (some f)).formula = some g ∧
      ∃ o ∈ g.root.occurrences [], ∃ v m n, o.around = [] ++ v :: [] ∧
        v.parameters = ["ß", "ss"] ∧ v.arguments = [m, n] ∧ m.operand.numeral? = some "1" ∧
        o.token = "ß" ∧ o.result.bind Operand.numeral? = some "2" := by
  intro s f
  rw [evaluate_eq]
  have once : (Node.occurrences [] (((Builder.standard s.config).build eszett).evaluate
      s.surroundings awaitsNothing {}).1).map (fun o =>
        (o.around.map fun v => (v.parameters, v.arguments.map (·.operand.numeral?)),
          o.token, o.result.bind Operand.numeral?)) =
      [([(["ß", "ss"], [some "1", some "2"])], "ß", some "2")] := by
    rw [Builder.standard_eq]
    decide +kernel
  obtain ⟨⟨around, token, scope, result⟩, occurs, shape⟩ := List.map_eq_singleton_iff.mp once
  obtain ⟨levels, names⟩ := Prod.mk.inj shape
  obtain ⟨name, value⟩ := Prod.mk.inj names
  obtain ⟨v, rfl, entry⟩ := List.map_eq_singleton_iff.mp levels
  obtain ⟨parameters, numerals⟩ := Prod.mk.inj entry
  obtain ⟨m, rest, arguments, first, others⟩ := List.map_eq_cons_iff.mp numerals
  obtain ⟨n, rfl, -⟩ := List.map_eq_singleton_iff.mp others
  refine ⟨_, rfl, _, ?_, v, m, n, rfl, parameters, arguments, first, name, value⟩
  exact occurs ▸ List.mem_singleton_self _

/-- The argument of the last name with the capital form `SS`. -/
theorem Session.result_of_position_eszett :
    let s : Session := { config := { unit := "book", sheet := "one" } }
    let f : Formula := ⟨(Builder.standard s.config).build eszett, {}⟩
    ∃ g, (s.evaluate false (some f)).formula = some g ∧ ∃ o ∈ g.root.occurrences [],
      o.token = "ß" ∧ ∃ v n, o.around = [v] ∧ v.arguments[1]? = some n ∧
        o.result = some n.operand := by
  intro s f
  obtain ⟨g, evaluated, o, occurs, v, m, n, around, parameters, arguments, -, token, -⟩ :=
    occurrence_eszett
  have tree : f.root.unevaluated = (Builder.standard s.config).build eszett :=
    Builder.invariant_unevaluated.make eszett
  have innermost : ∀ w ∈ ([] : List Invocation), ¬ w.declares o.token :=
    fun w none => absurd none List.not_mem_nil
  have complete : v.arguments.length = v.parameters.length := by rw [arguments, parameters]; rfl
  have position : v.parameters[0]? = some "ß" := by rw [parameters]; rfl
  have same : equalIgnoringAsciiCase "ß" o.token := by rw [token]; decide +kernel
  obtain ⟨k, q, x, parameter, argument, -, last, -, result⟩ :=
    result_of_position tree evaluated occurs around innermost complete position same
  have capital : upperText "ss" = upperText o.token := by rw [token]; decide +kernel
  have least : 1 ≤ k := last 1 "ss" (by rw [parameters]; rfl) capital
  have most : k < 2 := by
    simpa [parameters] using (List.getElem?_eq_some_iff.mp parameter).1
  obtain rfl : k = 1 := by omega
  exact ⟨g, evaluated, o, occurs, token, v, x, around, argument,
    result.resolve_right fun ⟨_, deep, _⟩ => Nat.not_lt_zero _ deep⟩

/-- The argument at the own position of a parameter is another one. -/
theorem Session.result_at_other_position :
    let s : Session := { config := { unit := "book", sheet := "one" } }
    let f : Formula := ⟨(Builder.standard s.config).build eszett, {}⟩
    ¬ ∀ g ∈ (s.evaluate false (some f)).formula, ∀ o ∈ g.root.occurrences [],
      ∀ inner v outer, o.around = inner ++ v :: outer → (∀ w ∈ inner, ¬ w.declares o.token) →
        v.arguments.length = v.parameters.length →
        v.parameters.Pairwise (fun p q => ¬ equalIgnoringAsciiCase p q) →
        ∀ (i : Nat) (p : String) (n : Node), v.parameters[i]? = some p → v.arguments[i]? = some n →
          equalIgnoringAsciiCase p o.token → o.result = some n.operand := by
  intro s f law
  obtain ⟨g, evaluated, o, occurs, v, m, n, around, parameters, arguments, first, token, second⟩ :=
    occurrence_eszett
  have own := law g evaluated o occurs [] v [] around (fun w none => absurd none List.not_mem_nil)
    (by rw [arguments, parameters]; rfl) (by rw [parameters]; decide +kernel) 0 "ß" m
    (by rw [parameters]; rfl) (by rw [arguments]; rfl) (by rw [token]; decide +kernel)
  rw [own, Option.bind_some, first] at second
  exact absurd second (by decide)

end Spreadsheet
