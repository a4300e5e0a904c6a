import Spreadsheet.Proofs.Building
import Spreadsheet.Proofs.CapitalForms

/-!
# Lambdas as lexical scope

What a formula with lambdas means, told without scopes, links and bindings that come and go.
`ParseTree.meaning` evaluates a parse tree under names with their operands: the arguments of an
invocation under the names around the lambda, its body with the parameters added. A name is that of
the innermost parameter so called, and stands for its operand.

`Session.evaluate_build` says that this is what the nodes built from a parse tree evaluate to. The
simulation behind it is `Represents`: level by level, the bindings of the scopes of the open lambdas
stand for the operands of the names, directly or through links to levels further out.
-/

namespace Spreadsheet

/-! ## Meanings -/

/-- Names with their operands, the innermost first. -/
abbrev Names := List (String × Operand)

/-- The operand of the innermost entry with a name; the case of ASCII letters does not count. -/
def Names.find? (names : Names) (name : String) : Option Operand :=
  (List.find? (fun entry => equalIgnoringAsciiCase entry.1 name) names).map (·.2)

/-- The names inside an invocation: those outside after the parameters with their operands, of
which the last one comes first. -/
def Names.enter (names : Names) (parameters : List String) (operands : List Operand) : Names :=
  (parameters.zip operands).reverse ++ names

/-- Whether a tree is a lambda. -/
def ParseTree.isLambda (t : ParseTree) : Bool :=
  t.isCall && equalIgnoringAsciiCase t.token "LAMBDA"

/-- The operand of a token alone that names no parameter. -/
def Config.meaningOfToken (config : Config) (layers : Layers) (token : String) : Operand :=
  if isLiteral token then .value (.ofConstant token)
  else if looksLikeReference token then
    match config.locate token with
    | .ok (sheet, range) => .reference ⟨config.unit, sheet, range, layers⟩
    | .error e => .ofError ⟨.reference, some e.message⟩
  else .ofError (.unknownName token)

mutual

/-- The operand of a tree under names. A lambda without an invocation, or with more arguments than
parameters, is an error, whatever its body. -/
def ParseTree.meaning (config : Config) (layers : Layers) (names : Names) : ParseTree → Operand
  | .node token children isCall invocation =>
    if isCall && equalIgnoringAsciiCase token "LAMBDA" then
      match lambdaParameters children.dropLast with
      | .error e => .ofError e
      | .ok parameters =>
        if children.isEmpty then .ofError (.argumentCount "LAMBDA" "at least 1" 0)
        else
          match ParseTree.meaningsOfInvocation config layers names invocation with
          | none => .ofError .neverCalled
          | some operands =>
            if parameters.length < operands.length then
              .ofError (.argumentCount "LAMBDA" (toString parameters.length) operands.length)
            else ParseTree.meaningOfLast config layers (names.enter parameters operands) children
    else if isCall then
      match config.registry.find? token with
      | some f => f.calculate (ParseTree.meanings config layers names children)
      | none => .ofError (config.registry.unknownFunction token)
    else if children.isEmpty then
      (names.find? token).getD (config.meaningOfToken layers token)
    else
      match Operator.ofToken? token children.length with
      | some op =>
        .value (op.apply ((ParseTree.meanings config layers names children).map Operand.force))
      | none => .ofError (.unknownName token)

/-- The operands of several trees. -/
def ParseTree.meanings (config : Config) (layers : Layers) (names : Names) :
    List ParseTree → List Operand
  | [] => []
  | t :: rest =>
    ParseTree.meaning config layers names t :: ParseTree.meanings config layers names rest

/-- The operand of the last of several trees; of none it is null. -/
def ParseTree.meaningOfLast (config : Config) (layers : Layers) (names : Names) :
    List ParseTree → Operand
  | [] => .value .null
  | [t] => ParseTree.meaning config layers names t
  | _ :: rest => ParseTree.meaningOfLast config layers names rest

/-- The operands of the arguments of an invocation. -/
def ParseTree.meaningsOfInvocation (config : Config) (layers : Layers) (names : Names) :
    Option (List ParseTree) → Option (List Operand)
  | none => none
  | some arguments => some (ParseTree.meanings config layers names arguments)

end

mutual

/-- A tree and all trees below it, arguments of invocations included. -/
def ParseTree.subtrees : ParseTree → List ParseTree
  | t@(.node _ children _ none) => t :: ParseTree.subtreesOfAll children
  | t@(.node _ children _ (some arguments)) =>
    t :: (ParseTree.subtreesOfAll children ++ ParseTree.subtreesOfAll arguments)

/-- The trees in several trees. -/
def ParseTree.subtreesOfAll : List ParseTree → List ParseTree
  | [] => []
  | t :: rest => ParseTree.subtrees t ++ ParseTree.subtreesOfAll rest

end

mutual

/-- The greatest number of lambdas around a token, counting only those with the token in their
bodies. -/
def ParseTree.lambdaDepth : ParseTree → Nat
  | .node token children isCall none =>
    ParseTree.lambdaDepthOfAll children +
      if isCall && equalIgnoringAsciiCase token "LAMBDA" then 1 else 0
  | .node token children isCall (some arguments) =>
    max (ParseTree.lambdaDepthOfAll arguments) (ParseTree.lambdaDepthOfAll children +
      if isCall && equalIgnoringAsciiCase token "LAMBDA" then 1 else 0)

/-- The greatest number of lambdas around a token of several trees. -/
def ParseTree.lambdaDepthOfAll : List ParseTree → Nat
  | [] => 0
  | t :: rest => max (ParseTree.lambdaDepth t) (ParseTree.lambdaDepthOfAll rest)

end

/-- Whether a tree is no lambda, or one whose parameters have ASCII names and, if it is invoked, an
argument each. -/
structure ParseTree.BindsParameters (t : ParseTree) : Prop where
  ascii : t.isLambda → ∀ p ∈ t.children.dropLast, isAscii p.token
  enough : t.isLambda → ∀ arguments ∈ t.invocation, t.children.dropLast.length ≤ arguments.length

instance (t : ParseTree) : Decidable t.BindsParameters :=
  decidable_of_iff
    ((t.isLambda → ∀ p ∈ t.children.dropLast, isAscii p.token) ∧
      (t.isLambda → ∀ arguments ∈ t.invocation, t.children.dropLast.length ≤ arguments.length))
    ⟨fun both => ⟨both.1, both.2⟩, fun binds => ⟨binds.ascii, binds.enough⟩⟩

section Subtrees

variable {token : String} {children : List ParseTree} {isCall : Bool}
  {invocation : Option (List ParseTree)}

theorem ParseTree.mem_subtrees_self {t : ParseTree} : t ∈ t.subtrees := by
  match t with
  | .node _ _ _ none | .node _ _ _ (some _) => exact List.mem_cons_self

theorem ParseTree.mem_subtrees_of_children {u : ParseTree} (below : u ∈ subtreesOfAll children) :
    u ∈ (node token children isCall invocation).subtrees := by
  match invocation with
  | none => exact List.mem_cons_of_mem _ below
  | some _ => exact List.mem_cons_of_mem _ (List.mem_append_left _ below)

theorem ParseTree.mem_subtrees_of_arguments {u : ParseTree} {arguments : List ParseTree}
    (below : u ∈ subtreesOfAll arguments) :
    u ∈ (node token children isCall (some arguments)).subtrees :=
  List.mem_cons_of_mem _ (List.mem_append_right _ below)

theorem ParseTree.lambdaDepth_body_lt (isLambda : equalIgnoringAsciiCase token "LAMBDA") :
    lambdaDepthOfAll children < (node token children true invocation).lambdaDepth := by
  match invocation with
  | none => simp only [lambdaDepth, Bool.true_and, if_pos isLambda, Nat.lt_succ_self]
  | some _ =>
    simp only [lambdaDepth, Bool.true_and, if_pos isLambda]
    exact Nat.le_max_right _ _

theorem ParseTree.lambdaDepth_children_le :
    lambdaDepthOfAll children ≤ (node token children isCall invocation).lambdaDepth := by
  match invocation with
  | none => exact Nat.le_add_right _ _
  | some _ => exact Nat.le_trans (Nat.le_add_right _ _) (Nat.le_max_right _ _)

theorem ParseTree.lambdaDepth_arguments_le {arguments : List ParseTree} :
    lambdaDepthOfAll arguments ≤ (node token children isCall (some arguments)).lambdaDepth :=
  Nat.le_max_left _ _

end Subtrees

/-! ## Names and scopes -/

/-- The binding of a name in a scope itself comes before those in scopes around it. -/
theorem Environment.find?_of_lookup {env : Environment} {scope : Scope} {name : String}
    {β : Binding} (binding : (env.frame scope.id).lookup (upperText name) = some β) :
    env.find? scope name = some β := by
  rw [find?, List.findSome?_cons, binding]

section Names

variable {inner outer : Names} {name : String} {x : Operand}

theorem Names.find?_append :
    Names.find? (inner ++ outer) name = (inner.find? name).or (outer.find? name) := by
  rw [find?, List.find?_append, Option.map_or]
  rfl

theorem Names.find?_cons {entry : String × Operand} {rest : Names} :
    Names.find? (entry :: rest) name =
      if equalIgnoringAsciiCase entry.1 name then some entry.2 else rest.find? name := by
  rw [find?, List.find?_cons]
  cases equalIgnoringAsciiCase entry.1 name <;> rfl

/-- A name that is found among ASCII names is one. -/
theorem Names.isAscii_of_find? (ascii : ∀ entry ∈ inner, isAscii entry.1)
    (found : inner.find? name = some x) : isAscii name := by
  obtain ⟨entry, first, -⟩ := Option.map_eq_some_iff.mp found
  have same := List.find?_some first
  exact isAscii_of_equalIgnoringAsciiCase (ascii entry (List.mem_of_find?_eq_some first)) same

end Names

/-- Whether a binding stands for an operand: it is the operand, or a link to a parameter of an open
lambda with this operand. -/
def Binding.Denotes (lambdas : List OpenLambda) (names : Names) (x : Operand) : Binding → Prop
  | .operand y => y = x
  | .parameter next scope => parameterScope? lambdas next = some scope ∧ names.find? next = some x

/-- Whether the bindings of the scopes of open lambdas stand for the operands of names, where all
paths of scopes are shorter than a bound. Links lead outward only. -/
inductive Represents (env : Environment) : Nat → List OpenLambda → Names → Prop
  | nil {bound : Nat} : Represents env bound [] []
  | cons {bound : Nat} {l : OpenLambda} {rest : List OpenLambda} {inner outer : Names}
      (around : Represents env l.scope.id.length rest outer)
      (short : l.scope.id.length < bound)
      (ascii : ∀ entry ∈ inner, isAscii entry.1)
      (declared : ∀ name,
        l.parameters.any (equalIgnoringAsciiCase · name) = (inner.find? name).isSome)
      (bindings : ∀ name x, inner.find? name = some x →
        ∃ β, (env.frame l.scope.id).lookup (upperText name) = some β ∧ β.Denotes rest outer x) :
      Represents env bound (l :: rest) (inner ++ outer)

section Represents

variable {env : Environment} {bound : Nat} {lambdas : List OpenLambda} {names : Names}
  {name : String} {scope : Scope}

theorem parameterScope?_cons {l : OpenLambda} :
    parameterScope? (l :: lambdas) name =
      if l.parameters.any (equalIgnoringAsciiCase · name) then some l.scope
      else parameterScope? lambdas name := by
  rw [parameterScope?, List.find?_cons]
  cases l.parameters.any (equalIgnoringAsciiCase · name) <;> rfl

/-- A larger bound will do. -/
theorem Represents.mono {larger : Nat} (represents : Represents env bound lambdas names)
    (le : bound ≤ larger) : Represents env larger lambdas names := by
  cases represents with
  | nil => exact .nil
  | cons around short ascii declared bindings =>
    exact .cons around (Nat.lt_of_lt_of_le short le) ascii declared bindings

/-- Only the scopes below the bound matter. -/
theorem Represents.of_frame_eq {env' : Environment}
    (represents : Represents env bound lambdas names)
    (same : ∀ id : ScopeId, id.length < bound → env'.frame id = env.frame id) :
    Represents env' bound lambdas names := by
  induction represents with
  | nil => exact .nil
  | cons around short ascii declared bindings ih =>
    refine .cons (ih fun id below => same id (Nat.lt_trans below short)) short ascii declared ?_
    rw [same _ short]
    exact bindings

/-- A name is that of a parameter when it has an operand. -/
theorem Represents.isSome_find? (represents : Represents env bound lambdas names) :
    (names.find? name).isSome = (parameterScope? lambdas name).isSome := by
  induction represents with
  | nil => rfl
  | cons around short ascii declared bindings ih =>
    rw [Names.find?_append, Option.isSome_or, ← declared, ih, parameterScope?_cons]
    split
    · rename_i here
      rw [here, Bool.true_or, Option.isSome_some]
    · rename_i elsewhere
      rw [Bool.eq_false_iff.mpr elsewhere, Bool.false_or]

/-- A parameter resolves to the operand of its name, over at most as many links as lambdas are
open. -/
theorem Represents.go_eq_ok (represents : Represents env bound lambdas names)
    (found : parameterScope? lambdas name = some scope) {maxDepth steps : Nat}
    {visited : List (ScopeId × String)} (enough : lambdas.length ≤ steps)
    (outside : ∀ v ∈ visited, bound ≤ v.1.length) :
    ∃ x, names.find? name = some x ∧
      Environment.resolve.go env maxDepth steps visited scope (upperText name) = .ok x := by
  induction represents generalizing name scope steps visited with
  | nil => cases found
  | @cons bound l rest inner outer around short ascii declared bindings ih =>
    rw [parameterScope?_cons] at found
    rw [Names.find?_append]
    split at found
    · rename_i here
      cases found
      obtain ⟨x, operand⟩ := Option.isSome_iff_exists.mp ((declared name).symm.trans here)
      obtain ⟨β, binding, denotes⟩ := bindings name x operand
      obtain ⟨steps, rfl⟩ : ∃ k, steps = k + 1 :=
        Nat.exists_eq_add_one.mpr (Nat.lt_of_lt_of_le (Nat.succ_pos _) enough)
      have fresh : (l.scope.id, upperText name) ∉ visited := fun member =>
        Nat.not_le.mpr short (outside _ member)
      have first : env.find? l.scope (upperText name) = some β :=
        Environment.find?_of_lookup (upperText_upperText.symm ▸ binding)
      rw [operand, Option.some_or, Environment.resolve.go, if_neg fresh, first]
      match β with
      | .operand y => exact ⟨x, rfl, congrArg Except.ok denotes⟩
      | .parameter next scope =>
        -- The link leads to a level further out, which has not been visited.
        have farther : ∀ v ∈ (l.scope.id, upperText name) :: visited,
            l.scope.id.length ≤ v.1.length :=
          List.forall_mem_cons.mpr ⟨Nat.le_refl _, fun v member =>
            Nat.le_of_lt (Nat.lt_of_lt_of_le short (outside v member))⟩
        obtain ⟨y, same, resolved⟩ := ih denotes.1 (Nat.le_of_succ_le_succ enough) farther
        cases denotes.2.symm.trans same
        exact ⟨x, rfl, resolved⟩
    · rename_i elsewhere
      have missing : inner.find? name = none := by
        rw [← Option.not_isSome_iff_eq_none, ← declared]
        exact elsewhere
      rw [missing, Option.none_or]
      exact ih found (Nat.le_of_succ_le enough)
        fun v member => Nat.le_of_lt (Nat.lt_of_lt_of_le short (outside v member))

/-- A parameter of an open lambda stands for the operand of its name. -/
theorem Represents.lookup_eq (represents : Represents env bound lambdas names)
    (found : parameterScope? lambdas name = some scope) {maxDepth : Nat}
    (enough : lambdas.length ≤ maxDepth) :
    names.find? name = some (env.lookup maxDepth scope name) := by
  obtain ⟨x, operand, resolved⟩ := represents.go_eq_ok found (Nat.le_succ_of_le enough)
    (fun v (member : v ∈ []) => absurd member List.not_mem_nil)
  rw [operand, Environment.lookup, Environment.resolve, resolved]

/-- The first parameter with the capital form of a name is bound to what stands for the operand of
the name. -/
theorem Names.exists_binding {pairs : List (String × Node)} {inner : Names} {x : Operand}
    (denotes : List.Forall₂ (fun bound entry => bound.1 = entry.1 ∧
      bound.2.binding.Denotes lambdas names entry.2) pairs inner)
    (ascii : ∀ entry ∈ inner, isAscii entry.1) (found : inner.find? name = some x) :
    ∃ β, (pairs.find? fun entry => upperText entry.1 == upperText name).map
      (fun entry => entry.2.binding) = some β ∧ β.Denotes lambdas names x := by
  have nameAscii : isAscii name := Names.isAscii_of_find? ascii found
  induction denotes with
  | nil => cases found
  | @cons pair entry pairs rest first others ih =>
    rw [List.forall_mem_cons] at ascii
    rw [Names.find?_cons] at found
    rw [List.find?_cons, first.1]
    split at found
    · rename_i here
      cases found
      rw [(upperText_eq_iff ascii.1 nameAscii).mpr here, beq_self_eq_true]
      exact ⟨_, rfl, first.2⟩
    · rename_i elsewhere
      rw [beq_eq_false_iff_ne.mpr fun same =>
        elsewhere ((upperText_eq_iff ascii.1 nameAscii).mp same)]
      exact ih ascii.2 found

/-- Inside an invocation with an argument for each parameter, the scope of the lambda stands for the
names that the parameters add. -/
theorem Represents.enter {parameters : List String} {arguments : List Node}
    {operands : List Operand} {path : ScopeId} (here : scope.id = path)
    (represents : Represents env path.length lambdas names)
    (ascii : ∀ p ∈ parameters, isAscii p) (complete : parameters.length ≤ operands.length)
    (denotes : List.Forall₂ (fun n x => n.binding.Denotes lambdas names x) arguments operands) :
    Represents (env.bindArguments scope parameters arguments) (path.length + 1)
      (⟨parameters, scope⟩ :: lambdas) (names.enter parameters operands) := by
  subst here
  have added : ∀ entry ∈ (parameters.zip operands).reverse, isAscii entry.1 :=
    fun entry member => ascii entry.1 (List.of_mem_zip (List.mem_reverse.mp member)).1
  refine .cons ?_ (Nat.lt_succ_self _) added ?_ ?_
  · refine represents.of_frame_eq fun id below => ?_
    exact Environment.frame_bindArguments_of_ne fun same => Nat.ne_of_lt below (same ▸ rfl)
  · intro name
    calc parameters.any (equalIgnoringAsciiCase · name)
      _ = ((parameters.zip operands).map Prod.fst).any (equalIgnoringAsciiCase · name) := by
        rw [List.map_fst_zip complete]
      _ = _ := by
        rw [Names.find?, Option.isSome_map, List.isSome_find?, List.any_reverse, List.any_map]
        rfl
  · intro name x found
    rw [Environment.lookup_bindArguments]
    exact Names.exists_binding (List.rel_reverse (forall₂_zip_keys denotes)) added found

end Represents

/-! ## The simulation -/

/-- The classes of the standard builder, in the order in which they are asked. -/
theorem Builder.classes_standard {config : Config} :
    (standard config).classes =
      [.parameter, .lambda, .function, .operator, .value, .reference] := by
  rw [standard, ofClasses]
  exact List.mergeSort_of_pairwise (by decide)

theorem Builder.standard_eq {config : Config} : standard config =
    ⟨config, [.parameter, .lambda, .function, .operator, .value, .reference]⟩ := by
  have classes : (standard config).classes = _ := classes_standard
  exact congrArg (Builder.mk config) classes

theorem Builder.config_standard {config : Config} : (standard config).config = config :=
  rfl

/-- The class of a tree that is a call. -/
theorem Builder.classify_call {config : Config} {lambdas : List OpenLambda} {token : String}
    {children : List ParseTree} {invocation : Option (List ParseTree)} :
    (standard config).classify lambdas (.node token children true invocation) =
      if equalIgnoringAsciiCase token "LAMBDA" then .lambda else .function := by
  rw [classify, classes_standard]
  simp only [List.find?_cons, NodeClass.claims, ParseTree.isLeaf, ParseTree.isCall,
    ParseTree.token, Bool.not_true, Bool.false_and, Bool.true_and]
  cases equalIgnoringAsciiCase token "LAMBDA" <;> rfl

/-- No operator stands alone. -/
theorem Operator.ofToken?_zero {token : String} : Operator.ofToken? token 0 = none := by
  simp [ofToken?]

/-- The class of a token alone. -/
theorem Builder.classify_leaf {config : Config} {lambdas : List OpenLambda} {token : String}
    {invocation : Option (List ParseTree)} :
    (standard config).classify lambdas (.node token [] false invocation) =
      if (parameterScope? lambdas token).isSome then .parameter
      else if isLiteral token then .value
      else if looksLikeReference token then .reference
      else .error := by
  rw [classify, classes_standard]
  simp only [List.find?_cons, NodeClass.claims, ParseTree.isLeaf, ParseTree.isCall,
    ParseTree.token, ParseTree.children, List.length_nil, Operator.ofToken?_zero,
    Bool.not_false, List.isEmpty_nil, Bool.true_and, Bool.false_and, Option.isSome_none]
  cases (parameterScope? lambdas token).isSome
  · cases isLiteral token
    · cases looksLikeReference token <;> rfl
    · rfl
  · rfl

/-- The class of an operator with its operands. -/
theorem Builder.classify_operator {config : Config} {lambdas : List OpenLambda} {token : String}
    {child : ParseTree} {children : List ParseTree} {invocation : Option (List ParseTree)} :
    (standard config).classify lambdas (.node token (child :: children) false invocation) =
      if (Operator.ofToken? token (child :: children).length).isSome then .operator else .error := by
  rw [classify, classes_standard]
  simp only [List.find?_cons, NodeClass.claims, ParseTree.isLeaf, ParseTree.isCall,
    ParseTree.token, ParseTree.children, List.isEmpty_cons, Bool.not_false, Bool.and_false,
    Bool.true_and, Bool.false_and]
  cases (Operator.ofToken? token (child :: children).length).isSome <;> rfl

/-- The parameters of a lambda are the tokens before its body. -/
theorem lambdaParameters_eq_ok {declared : List ParseTree} {parameters : List String}
    (valid : lambdaParameters declared = .ok parameters) :
    parameters = declared.map ParseTree.token := by
  induction declared generalizing parameters with
  | nil =>
    cases valid
    rfl
  | cons t rest ih =>
    rw [lambdaParameters, List.mapM_cons] at valid
    split at valid
    · change (lambdaParameters rest >>= fun names => .ok (t.token :: names)) = _ at valid
      cases others : lambdaParameters rest with
      | error e =>
        rw [others] at valid
        cases valid
      | ok names =>
        rw [others] at valid
        cases valid
        rw [List.map_cons, ih others]
    · cases valid

/-- The parameters of a lambda that binds them are in ASCII, and none is left without an
argument. -/
theorem ParseTree.BindsParameters.of_valid {token : String} {children : List ParseTree}
    {invocation : Option (List ParseTree)} {parameters : List String}
    (binds : (node token children true invocation).BindsParameters)
    (isLambda : equalIgnoringAsciiCase token "LAMBDA")
    (valid : lambdaParameters children.dropLast = .ok parameters) :
    (∀ p ∈ parameters, isAscii p) ∧
      ∀ arguments ∈ invocation, parameters.length ≤ arguments.length := by
  rw [lambdaParameters_eq_ok valid]
  constructor
  · rw [List.forall_mem_map]
    exact binds.ascii isLambda
  · rw [List.length_map]
    exact binds.enough isLambda

/-- Only of no trees there is no last one. -/
theorem Builder.makeLast_eq_none {b : Builder} {lambdas : List OpenLambda} {path : ScopeId} :
    (trees : List ParseTree) → b.makeLast lambdas path trees = none → trees = []
  | [], _ => rfl
  | _ :: second :: rest, missing => nomatch makeLast_eq_none (second :: rest) missing

/-- Whether an evaluated node stands for an operand, as a result and as an argument. -/
def Node.Denotes (lambdas : List OpenLambda) (names : Names) (n : Node) (x : Operand) : Prop :=
  n.operand = x ∧ n.binding.Denotes lambdas names x

section Simulation

variable {config : Config} {s : Surroundings} {env : Environment} {lambdas : List OpenLambda}
  {names : Names} {path : ScopeId}

/-- A token alone evaluates to its meaning. -/
theorem Builder.denotes_leaf {bound : Nat} {token : String} {invocation : Option (List ParseTree)}
    (represents : Represents env bound lambdas names)
    (shallow : lambdas.length ≤ s.maxParameterDepth) :
    (((standard config).make lambdas path
      ((standard config).classify lambdas (.node token [] false invocation))
      (.node token [] false invocation)).evaluate s awaitsNothing env).1.Denotes lambdas names
      ((names.find? token).getD (config.meaningOfToken s.layers token)) := by
  rw [classify_leaf]
  cases declared : parameterScope? lambdas token with
  | some scope =>
    have operand := represents.lookup_eq declared shallow
    simp only [Option.isSome_some, if_true, make, Node.ofParameter, declared, Node.evaluate,
      operand, Option.getD_some]
    exact ⟨rfl, declared, operand⟩
  | none =>
    have free : names.find? token = none := by
      rw [← Option.not_isSome_iff_eq_none, represents.isSome_find?, declared]
      exact Bool.false_ne_true
    simp only [Option.isSome_none, Bool.false_eq_true, if_false, free, Option.getD_none,
      Config.meaningOfToken]
    split
    · exact ⟨rfl, rfl⟩
    split
    · simp only [make, Node.ofReference, config_standard]
      cases config.locate token <;> exact ⟨rfl, rfl⟩
    · exact ⟨rfl, rfl⟩

theorem ParseTree.length_meanings {layers : Layers} {trees : List ParseTree} :
    (meanings config layers names trees).length = trees.length := by
  induction trees with
  | nil => rfl
  | cons t rest ih => rw [meanings, List.length_cons, List.length_cons, ih]

/-- The operand of an invocation is that of the body, unless there are too many arguments. -/
theorem Builder.denotes_invocation {token : String} {parameters : List String} {scope : Scope}
    {body : Node} {arguments : List Node} {kept : Option Operand} {operands : List Operand}
    {x : Operand}
    (results : List.Forall₂ (Node.Denotes lambdas names)
      (Node.evaluateAll s awaitsNothing env arguments).1 operands)
    (inside : (body.evaluate s awaitsNothing
      ((Node.evaluateAll s awaitsNothing env arguments).2.bindArguments scope parameters
        (Node.evaluateAll s awaitsNothing env arguments).1)).1.operand = x) :
    ((Node.lambda token parameters scope body (some arguments) kept).evaluate s awaitsNothing
      env).1.Denotes lambdas names
        (if parameters.length < operands.length then
          .ofError (.argumentCount "LAMBDA" (toString parameters.length) operands.length)
        else x) := by
  simp only [Node.evaluate, FormulaError.tooManyArguments, ← results.length_eq]
  split
  · exact ⟨rfl, rfl⟩
  · exact ⟨inside, inside⟩

/-- After the arguments of an invocation have been evaluated and bound, the names inside have their
operands. -/
theorem Builder.represents_body {index : Nat} {arguments : List ParseTree}
    {parameters : List String} {scope : Scope} {operands : List Operand}
    (represents : Represents env path.length lambdas names) (here : scope.id = path)
    (ascii : ∀ p ∈ parameters, isAscii p) (complete : parameters.length ≤ operands.length)
    (results : List.Forall₂ (Node.Denotes lambdas names)
      (Node.evaluateAll s awaitsNothing env
        ((standard config).makeAll lambdas path index arguments)).1 operands) :
    Represents
      ((Node.evaluateAll s awaitsNothing env
        ((standard config).makeAll lambdas path index arguments)).2.bindArguments scope parameters
        (Node.evaluateAll s awaitsNothing env
          ((standard config).makeAll lambdas path index arguments)).1)
      (0 :: path).length (⟨parameters, scope⟩ :: lambdas) (names.enter parameters operands) := by
  have around : Represents (Node.evaluateAll s awaitsNothing env
      ((standard config).makeAll lambdas path index arguments)).2 path.length lambdas names :=
    represents.of_frame_eq fun id below => frame_evaluateAll_makeAll (Nat.le_of_lt below)
  exact around.enter here ascii complete (results.imp fun n x denotes => denotes.2)

/-- The results of nodes that stand for operands. -/
theorem Node.map_operand_of_denotes {nodes : List Node} {operands : List Operand}
    (denotes : List.Forall₂ (Node.Denotes lambdas names) nodes operands) :
    nodes.map Node.operand = operands := by
  induction denotes with
  | nil => rfl
  | cons first others ih => rw [List.map_cons, first.1, ih]

mutual

/-- A built tree evaluates to its meaning. -/
theorem Builder.denotes_make {env : Environment} {lambdas : List OpenLambda} {names : Names}
    {path : ScopeId} (t : ParseTree) (represents : Represents env path.length lambdas names)
    (binds : ∀ u ∈ t.subtrees, u.BindsParameters)
    (shallow : lambdas.length + t.lambdaDepth ≤ s.maxParameterDepth) :
    (((standard config).make lambdas path ((standard config).classify lambdas t) t).evaluate s
      awaitsNothing env).1.Denotes lambdas names (t.meaning config s.layers names) := by
  match t with
  | .node token children true invocation =>
    rw [classify_call]
    simp only [ParseTree.meaning, Bool.true_and, if_true]
    split
    · rename_i isLambda
      simp only [make]
      cases valid : lambdaParameters children.dropLast with
      | error e => exact ⟨rfl, rfl⟩
      | ok parameters =>
        dsimp only
        split
        · rename_i missing
          rw [makeLast_eq_none children missing]
          exact ⟨rfl, rfl⟩
        · rename_i body made
          have inhabited : children.isEmpty = false := by
            cases children with
            | nil => cases made
            | cons => rfl
          simp only [inhabited, Bool.false_eq_true, if_false]
          match invocation with
          | none => exact ⟨rfl, rfl⟩
          | some arguments =>
            obtain ⟨ascii, complete⟩ :=
              (binds _ ParseTree.mem_subtrees_self).of_valid isLambda valid
            have deeper : ParseTree.lambdaDepthOfAll children <
                (ParseTree.node token children true (some arguments)).lambdaDepth :=
              ParseTree.lambdaDepth_body_lt isLambda
            have results := denotes_makeAll 1 arguments represents
              (fun u below => binds u (ParseTree.mem_subtrees_of_arguments below))
              (Nat.le_trans (Nat.add_le_add_left ParseTree.lambdaDepth_arguments_le _) shallow)
            have enough : parameters.length ≤
                (ParseTree.meanings config s.layers names arguments).length := by
              rw [ParseTree.length_meanings]
              exact complete arguments rfl
            have inside := denotes_makeLast children made
              (represents_body represents Scope.id_inside ascii enough results)
              (fun u below => binds u (ParseTree.mem_subtrees_of_children below))
              (by rw [List.length_cons]; omega)
            exact denotes_invocation results inside.1
    · have operands := denotes_makeAll 0 children represents
        (fun u below => binds u (ParseTree.mem_subtrees_of_children below))
        (Nat.le_trans (Nat.add_le_add_left ParseTree.lambdaDepth_children_le _) shallow)
      simp only [make, config_standard]
      cases known : config.registry.find? token with
      | none => exact ⟨rfl, rfl⟩
      | some f =>
        simp only [Node.evaluate, ← Node.map_operand_of_denotes operands]
        exact ⟨rfl, rfl⟩
  | .node token [] false invocation =>
    simp only [ParseTree.meaning, Bool.false_and, Bool.false_eq_true, if_false, List.isEmpty_nil,
      if_true]
    exact denotes_leaf represents (Nat.le_of_add_right_le shallow)
  | .node token (child :: children) false invocation =>
    rw [classify_operator]
    simp only [ParseTree.meaning, Bool.false_and, Bool.false_eq_true, if_false, List.isEmpty_cons]
    cases known : Operator.ofToken? token (child :: children).length with
    | none => exact ⟨rfl, rfl⟩
    | some op =>
      have operands := denotes_makeAll 0 (child :: children) represents
        (fun u below => binds u (ParseTree.mem_subtrees_of_children below))
        (Nat.le_trans (Nat.add_le_add_left ParseTree.lambdaDepth_children_le _) shallow)
      simp only [Option.isSome_some, if_true, make, known, Node.evaluate, Operator.applyTo]
      rw [← Node.map_operand_of_denotes operands, List.map_map]
      exact ⟨rfl, rfl⟩

theorem Builder.denotes_makeAll {env : Environment} {lambdas : List OpenLambda} {names : Names}
    {path : ScopeId} (index : Nat) (trees : List ParseTree)
    (represents : Represents env path.length lambdas names)
    (binds : ∀ u ∈ ParseTree.subtreesOfAll trees, u.BindsParameters)
    (shallow : lambdas.length + ParseTree.lambdaDepthOfAll trees ≤ s.maxParameterDepth) :
    List.Forall₂ (Node.Denotes lambdas names)
      (Node.evaluateAll s awaitsNothing env ((standard config).makeAll lambdas path index trees)).1
      (ParseTree.meanings config s.layers names trees) := by
  match trees with
  | [] => exact .nil
  | t :: rest =>
    simp only [ParseTree.subtreesOfAll, List.forall_mem_append] at binds
    simp only [ParseTree.lambdaDepthOfAll] at shallow
    simp only [makeAll, Node.evaluateAll, ParseTree.meanings]
    refine .cons (denotes_make t (represents.mono ?_) binds.1 (by omega))
      (denotes_makeAll _ rest ?_ binds.2 (by omega))
    · exact Nat.le_succ _
    · exact represents.of_frame_eq fun id below => frame_evaluate_make (Nat.lt_succ_of_lt below)

theorem Builder.denotes_makeLast {env : Environment} {lambdas : List OpenLambda} {names : Names}
    {path : ScopeId} (trees : List ParseTree) {body : Node}
    (made : (standard config).makeLast lambdas path trees = some body)
    (represents : Represents env path.length lambdas names)
    (binds : ∀ u ∈ ParseTree.subtreesOfAll trees, u.BindsParameters)
    (shallow : lambdas.length + ParseTree.lambdaDepthOfAll trees ≤ s.maxParameterDepth) :
    (body.evaluate s awaitsNothing env).1.Denotes lambdas names
      (ParseTree.meaningOfLast config s.layers names trees) := by
  match trees with
  | [] => cases made
  | [t] =>
    cases made
    simp only [ParseTree.subtreesOfAll, List.append_nil] at binds
    exact denotes_make t represents binds (by simpa [ParseTree.lambdaDepthOfAll] using shallow)
  | first :: second :: rest =>
    rw [ParseTree.subtreesOfAll, List.forall_mem_append] at binds
    rw [ParseTree.lambdaDepthOfAll] at shallow
    exact denotes_makeLast (second :: rest) made represents binds.2 (by omega)

end

end Simulation

/-- The meaning of a formula with lambdas. Built from a parse tree whose lambdas have parameters with
ASCII names, and as many arguments at least if they are invoked, and are nested no deeper than the
limit on links, a formula evaluates to its meaning, whatever earlier evaluations have left in its
scopes: arguments are evaluated outside the lambda, and a name stands for the operand of the
innermost parameter so called, no matter how often it is passed on. -/
theorem Session.evaluate_build {s : Session} {t : ParseTree} {environment : Environment}
    (binds : ∀ u ∈ t.subtrees, u.BindsParameters)
    (shallow : t.lambdaDepth ≤ s.config.options.maxParameterDepth) :
    (s.evaluate false (some ⟨(Builder.standard s.config).build t, environment⟩)).result =
      t.meaning s.config s.layers [] := by
  have depth : ([] : List OpenLambda).length + t.lambdaDepth ≤ s.surroundings.maxParameterDepth :=
    (Nat.zero_add _).symm ▸ shallow
  have denotes : Node.Denotes [] [] (((Builder.standard s.config).build t).evaluate s.surroundings
      awaitsNothing environment).1 (t.meaning s.config s.layers []) :=
    Builder.denotes_make t .nil binds depth
  rw [evaluate_eq]
  exact denotes.1

/-- A parameter passed on to one of the same name, in another case. -/
theorem Session.evaluate_build_passed_on :
    let s : Session := { config := { unit := "book", sheet := "one" } }
    let inner := (ParseTree.lambda ["X"] (.leaf "x")).invoke [.leaf "x"]
    let t := (ParseTree.lambda ["x"] inner).invoke [.leaf "TRUE"]
    (∀ u ∈ t.subtrees, u.BindsParameters) ∧ t.lambdaDepth ≤ s.config.options.maxParameterDepth ∧
      (s.evaluate false
        (some ⟨(Builder.standard s.config).build t, {}⟩)).result.force.asBool? = some true := by
  intro s inner t
  have binds : ∀ u ∈ t.subtrees, u.BindsParameters := by decide +kernel
  have shallow : t.lambdaDepth ≤ s.config.options.maxParameterDepth := by decide +kernel
  refine ⟨binds, shallow, ?_⟩
  rw [evaluate_build binds shallow]
  decide +kernel

end Spreadsheet
