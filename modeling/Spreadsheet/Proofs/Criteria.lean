import Spreadsheet.Function.Criteria
import Spreadsheet.Proofs.Literals
import Spreadsheet.Proofs.Wildcards

/-!
# What criteria accept

A criteria of equality with a text accepts the texts that match it as a pattern, if it is one, and
otherwise the text itself; beside these an empty one accepts null (`Criteria.acceptsBy_equal_text`).
So every text has a criteria that accepts it alone: its wildcards are escaped, and what comes out is
quoted (`Criteria.accepts_literal`). The quotes hide everything else that criteria give a meaning
to, and are removed before the escapes are looked at.

Matching is a parameter here. It is that of the matcher, or that of an engine which is given the
translated pattern.
-/

namespace Spreadsheet

/-! ## Escaped patterns -/

/-- The pattern with a tilde before each character that stands for others. -/
def escapeWildcards : List Char → List Char
  | [] => []
  | c :: rest =>
    if c = '*' ∨ c = '?' then '~' :: c :: escapeWildcards rest else c :: escapeWildcards rest

section Escapes

variable {chars text : List Char}

/-- An escaped pattern begins with no wildcard, so a tilde before it is one itself. -/
theorem head?_escapeWildcards :
    (escapeWildcards chars).head? ≠ some '*' ∧ (escapeWildcards chars).head? ≠ some '?' := by
  cases chars with
  | nil => decide
  | cons c rest =>
    rw [escapeWildcards]
    split
    · rw [List.head?_cons]
      decide
    · rename_i plain
      exact ⟨fun same => plain (.inl (Option.some.inj same)),
        fun same => plain (.inr (Option.some.inj same))⟩

/-- The elements of an escaped pattern are the characters that it was made of. -/
theorem wildcardTokens_escapeWildcards :
    wildcardTokens (escapeWildcards chars) = chars.map .literal := by
  induction chars with
  | nil => rfl
  | cons c rest ih =>
    rw [escapeWildcards]
    split
    · rename_i sign
      rcases sign with rfl | rfl <;> rw [wildcardTokens, ih, List.map_cons]
    · rename_i plain
      rw [not_or] at plain
      rw [wildcardTokens_ordinary plain.1 plain.2 fun _ => head?_escapeWildcards, ih,
        List.map_cons]

/-- Characters that stand for themselves cover themselves alone. -/
theorem tokensCover_map_literal : TokensCover (chars.map .literal) text ↔ text = chars := by
  induction chars generalizing text with
  | nil => exact tokensCover_nil
  | cons c rest ih =>
    rw [List.map_cons]
    cases text with
    | nil =>
      exact iff_of_false (not_tokensCover_nil fun same => nomatch same) (List.cons_ne_nil c rest).symm
    | cons x text => rw [tokensCover_literal_cons, ih, List.cons.injEq]

theorem mem_escapeWildcards {c : Char} (member : c ∈ chars) : c ∈ escapeWildcards chars := by
  induction chars with
  | nil => exact member
  | cons d rest ih =>
    rw [escapeWildcards]
    rcases List.mem_cons.mp member with rfl | later
    · split <;> simp
    · split <;> simp [ih later]

/-- A pattern without characters to escape is left as it is. -/
theorem escapeWildcards_eq_self (plain : ∀ c ∈ chars, c ≠ '*' ∧ c ≠ '?') :
    escapeWildcards chars = chars := by
  induction chars with
  | nil => rfl
  | cons c rest ih =>
    rw [List.forall_mem_cons] at plain
    rw [escapeWildcards, if_neg (not_or.mpr plain.1), ih plain.2]

theorem wildcardCut_escapeWildcards : WildcardCut (escapeWildcards chars) text ↔ text = chars := by
  rw [wildcardCut_iff, wildcardTokens_escapeWildcards, tokensCover_map_literal]

/-- An escaped pattern that can be compiled matches the text that it was made of, and no other. -/
theorem wildcardMatches_escapeWildcards {s t : String}
    (compilable : isCompilable (.ofList (escapeWildcards s.toList))) :
    wildcardMatches (.ofList (escapeWildcards s.toList)) t = true ↔ t = s := by
  rw [wildcardMatches_iff, and_iff_right compilable, String.toList_ofList,
    wildcardCut_escapeWildcards, String.toList_inj]

/-- So it does to an engine that accepts it. -/
theorem RegexEngine.ReadsAnchored.answer_escapeWildcards {engine : RegexEngine} {s t : String}
    (reads : engine.ReadsAnchored)
    (accepted : (engine.compile? (wildcardRegex (.ofList (escapeWildcards s.toList)))).isSome)
    (before : String → String → List (String × String)) :
    engine.answer before (.ofList (escapeWildcards s.toList)) t = true ↔ t = s := by
  rw [reads.answer_iff accepted, String.toList_ofList, wildcardCut_escapeWildcards,
    String.toList_inj]

end Escapes

/-! ## Matching as a parameter -/

/-- Whether a scalar relates to a pattern, where texts are matched in a given way. -/
def Value.scalarMatchesBy (isMatch : String → String → Bool) (r : Relation) (x pattern : Value) :
    Value :=
  match x, pattern, r with
  | .text s, .text p, .equal => .bool (isMatch p s)
  | .text s, .text p, .notEqual => .bool (!isMatch p s)
  | _, _, _ => scalarRelates r x pattern

/-- Whether a cell meets a condition whose comparand is taken for a pattern or not. -/
def Criteria.acceptsBy (isMatch : String → String → Bool) (asPattern : Bool) (c : Criteria)
    (cell : Value) : Bool :=
  let outcome :=
    if asPattern then Value.broadcast (.scalarMatchesBy isMatch c.relation) cell c.comparand
    else cell.relates c.relation c.comparand
  outcome.asBool? = some true

theorem Value.scalarMatchesBy_wildcardMatches :
    scalarMatchesBy wildcardMatches = scalarMatches := rfl

theorem Criteria.accepts_eq_acceptsBy (c : Criteria) (cell : Value) :
    c.accepts cell = c.acceptsBy wildcardMatches c.isPattern cell := rfl

/-! ## Equality with a text -/

/-- Characters are ordered by their code points. -/
instance lawfulEqCmp_toNat : Std.LawfulEqCmp fun c d : Char => compare c.toNat d.toNat where
  compare_self := by simp
  eq_of_compare same := Char.toNat_inj.mp (Nat.compare_eq_eq.mp same)

theorem compareText_eq_eq {a b : String} : compareText a b = .eq ↔ a = b := by
  rw [compareText, Std.LawfulEqCmp.compare_eq_iff_eq, String.toList_inj]

section Equality

variable {isMatch : String → String → Bool} {s : String} {v : Value}

/-- In the order of values no scalar equals a text but the text itself, and null an empty one. -/
theorem Value.relates_equal_text (scalar : ¬ v.isArray) :
    (v.relates .equal (.text s)).asBool? = some true ↔ v = .text s ∨ v = .null ∧ s = "" := by
  cases v with
  | text t =>
    change some (decide (compareText t s = .eq)) = some true ↔ _
    simp only [Option.some.injEq, decide_eq_true_eq, compareText_eq_eq, text.injEq, reduceCtorEq,
      false_and, or_false]
  | null =>
    change some (decide (compareText "" s = .eq)) = some true ↔ _
    simp only [Option.some.injEq, decide_eq_true_eq, compareText_eq_eq, reduceCtorEq, true_and,
      false_or]
    exact eq_comm
  | bool b | number n =>
    change some false = some true ↔ _
    simp
  | error e =>
    change none = some true ↔ _
    simp
  | array g => exact absurd rfl scalar

/-- No scalar matches a pattern but the texts that do, and null an empty one. -/
theorem Value.scalarMatchesBy_equal_text (scalar : ¬ v.isArray) :
    (broadcast (.scalarMatchesBy isMatch .equal) v (.text s)).asBool? = some true ↔
      (∃ t, v = .text t ∧ isMatch s t = true) ∨ v = .null ∧ s = "" := by
  cases v with
  | text t =>
    change some (isMatch s t) = some true ↔ _
    simp
  | null =>
    change some (decide (compareText "" s = .eq)) = some true ↔ _
    simp only [Option.some.injEq, decide_eq_true_eq, compareText_eq_eq, reduceCtorEq, false_and,
      exists_const, true_and, false_or]
    exact eq_comm
  | bool b | number n =>
    change some false = some true ↔ _
    simp
  | error e =>
    change none = some true ↔ _
    simp
  | array g => exact absurd rfl scalar

/-- What a criteria of equality with a text accepts. -/
theorem Criteria.acceptsBy_equal_text {asPattern : Bool} (scalar : ¬ v.isArray) :
    (Criteria.mk .equal (.text s)).acceptsBy isMatch asPattern v = true ↔
      (∃ t, v = .text t ∧ if asPattern then isMatch s t = true else t = s) ∨
        v = .null ∧ s = "" := by
  rw [acceptsBy, decide_eq_true_iff]
  cases asPattern with
  | true => exact Value.scalarMatchesBy_equal_text scalar
  | false =>
    simp only [Bool.false_eq_true, if_false, exists_eq_right]
    exact Value.relates_equal_text scalar

end Equality

/-! ## Texts as criteria -/

/-- The criteria of equality with a text: its wildcards are escaped, and the pattern is quoted. -/
def literalCriteria (s : String) : String :=
  .ofList ('=' :: '"' :: (doubleQuotes '"' (escapeWildcards s.toList) ++ ['"']))

theorem Criteria.ofText_literalCriteria (s : String) :
    ofText (literalCriteria s) = ⟨.equal, .text (.ofList (escapeWildcards s.toList))⟩ := by
  have split : Relation.split? (literalCriteria s).toList =
      some (.equal, '"' :: (doubleQuotes '"' (escapeWildcards s.toList) ++ ['"'])) := by
    rw [literalCriteria, String.toList_ofList]
    rfl
  simp only [ofText, split, Option.getD_some, List.isEmpty_cons, Bool.false_eq_true, if_false]
  rw [Value.ofLiteral_quoted]

/-- Where an escaped pattern is none, there was nothing to escape. -/
theorem ofList_escapeWildcards {s : String}
    (plain : ¬ isWildcardPattern (.ofList (escapeWildcards s.toList))) :
    String.ofList (escapeWildcards s.toList) = s := by
  rw [isWildcardPattern, String.toList_ofList, List.any_eq_true, not_exists] at plain
  rw [escapeWildcards_eq_self, String.ofList_toList]
  intro c member
  have ordinary := plain c
  simp only [mem_escapeWildcards member, Bool.or_eq_true, decide_eq_true_eq, true_and, not_or]
    at ordinary
  exact ordinary.1

/-- The criteria that is made of a text accepts what the escaped text matches, which is the text. -/
theorem Criteria.acceptsBy_literal {isMatch : String → String → Bool} {s : String} {v : Value}
    (own : ∀ t, isMatch (.ofList (escapeWildcards s.toList)) t = true ↔ t = s)
    (scalar : ¬ v.isArray) :
    (ofText (literalCriteria s)).acceptsBy isMatch (ofText (literalCriteria s)).isPattern v = true ↔
      v = .text s ∨ s = "" ∧ v = .null := by
  rw [ofText_literalCriteria, acceptsBy_equal_text scalar, isPattern]
  by_cases pattern : isWildcardPattern (.ofList (escapeWildcards s.toList))
  · have nonempty : s ≠ "" := by
      rintro rfl
      exact absurd pattern (by decide)
    have written : String.ofList (escapeWildcards s.toList) ≠ "" := by
      intro empty
      rw [empty] at pattern
      exact absurd pattern (by decide)
    simp only [pattern, if_true, own, exists_eq_right, written, nonempty, and_false, false_and]
  · have unescaped := ofList_escapeWildcards pattern
    rw [unescaped] at pattern ⊢
    simp only [pattern, Bool.false_eq_true, if_false, exists_eq_right]
    exact or_congr_right and_comm

/-- Every text can be matched by itself. The criteria that is made of a text accepts the text and no
other scalar, but for null, which it accepts if the text is empty. This holds of the matcher, if the
escaped text can be compiled, and of an engine that accepts it, whatever has been matched before. -/
theorem Criteria.accepts_literal {s : String} {v : Value} (scalar : ¬ v.isArray) :
    let pattern := String.ofList (escapeWildcards s.toList)
    let criteria := ofText (literalCriteria s)
    (isCompilable pattern → (criteria.accepts v = true ↔ v = .text s ∨ s = "" ∧ v = .null)) ∧
    ∀ engine : RegexEngine, engine.ReadsAnchored →
      (engine.compile? (wildcardRegex pattern)).isSome →
        ∀ before : String → String → List (String × String),
          (criteria.acceptsBy (engine.answer before) criteria.isPattern v = true ↔
            v = .text s ∨ s = "" ∧ v = .null) := by
  intro pattern criteria
  constructor
  · intro compilable
    rw [accepts_eq_acceptsBy]
    exact acceptsBy_literal (fun t => wildcardMatches_escapeWildcards compilable) scalar
  · intro engine reads accepted before
    exact acceptsBy_literal (fun t => reads.answer_escapeWildcards accepted before) scalar

/-- A text with an operator, a tilde before a star and quotes, beside the number that it begins
with, and to an engine that has matched it before. -/
theorem Criteria.accepts_literal_operator :
    let s := ">=1~*\"\""
    let pattern := String.ofList (escapeWildcards s.toList)
    let criteria := ofText (literalCriteria s)
    isCompilable pattern = true ∧ criteria.accepts (.text s) = true ∧
      criteria.accepts (.ofInt 1) = false ∧
      criteria.acceptsBy ((RegexEngine.accepting pattern).answer fun _ _ => [(pattern, "1")])
        criteria.isPattern (.text s) = true := by
  intro s pattern criteria
  have compilable : isCompilable pattern = true := by decide
  have accepted : ((RegexEngine.accepting pattern).compile? (wildcardRegex pattern)).isSome := by
    simp [RegexEngine.accepting]
  obtain ⟨matcher, given⟩ := accepts_literal (s := s) (v := .text s) Bool.false_ne_true
  obtain ⟨number, -⟩ := accepts_literal (s := s) (v := .ofInt 1) Bool.false_ne_true
  refine ⟨compilable, (matcher compilable).mpr (.inl rfl), ?_,
    (given _ (RegexEngine.readsAnchored_accepting pattern) accepted _).mpr (.inl rfl)⟩
  rw [Bool.eq_false_iff, Ne, number compilable]
  simp [Value.ofInt]

end Spreadsheet
