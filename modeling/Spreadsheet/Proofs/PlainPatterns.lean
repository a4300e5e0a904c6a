import Spreadsheet.Proofs.Broadcasting
import Spreadsheet.Proofs.Criteria

/-!
# Patterns without wildcards

A text whose characters all stand for themselves is a pattern that only the text itself matches,
for the matcher and for an engine that is given the translated text
(`wildcardMatches_of_plain`, `RegexEngine.answer_of_plain`). Equality by pattern is then equality by
order, beside every value and under every relation, and criteria for such a text accept the same
cells whether or not they take it for a pattern (`RegexEngine.relates_of_plain`).

Matching is a parameter here, since all that both sides need of it is which texts it accepts
(`MatchesItself`).
-/

namespace Spreadsheet

/-! ## Matching as a parameter -/

/-- Whether a pattern matches itself and nothing else. -/
def MatchesItself (isMatch : String → String → Bool) (p : String) : Prop :=
  ∀ t, isMatch p t = true ↔ t = p

section Parameter

variable {isMatch : String → String → Bool} {p : String} {r : Relation} {v : Value}

/-- Beside a text that matches only itself, scalars are in the relations that they have by order. -/
theorem MatchesItself.scalarMatchesBy (own : MatchesItself isMatch p) (x : Value) :
    Value.scalarMatchesBy isMatch r x (.text p) = .scalarRelates r x (.text p) := by
  cases x with
  | text t =>
    have equal : isMatch p t = decide (compareText t p = .eq) := by
      rw [Bool.eq_iff_iff, own t, decide_eq_true_iff, compareText_eq_eq]
    cases r with
    | equal => exact congrArg Value.bool equal
    | notEqual =>
      have different : (!isMatch p t) = decide (compareText t p ≠ .eq) := by
        rw [equal, decide_not]
      exact congrArg Value.bool different
    | _ => rfl
  | _ => rfl

/-- Operations that agree beside a text agree on all values beside it. -/
theorem Value.broadcast_text_congr {op op' : Value → Value → Value}
    (same : ∀ x, op x (.text p) = op' x (.text p)) (v : Value) :
    broadcast op v (.text p) = broadcast op' v (.text p) := by
  induction v using cellInduction with
  | plain v plain =>
    rw [plain.broadcast, plain.broadcast]
    exact same v
  | error e => rfl
  | array g ih =>
    have each : ∀ op : Value → Value → Value,
        broadcast op (.array g) (.text p) = .array (g.map fun v => broadcast op v (.text p)) := by
      intro op
      rw [broadcast_array, applyCells_scalar (y := .text p) Bool.false_ne_true Bool.false_ne_true,
        Grid.map_map]
    rw [each, each, Grid.map_congr ih]

theorem MatchesItself.broadcast (own : MatchesItself isMatch p) (r : Relation) (v : Value) :
    Value.broadcast (.scalarMatchesBy isMatch r) v (.text p) = v.relates r (.text p) :=
  Value.broadcast_text_congr own.scalarMatchesBy v

/-- Criteria for a text that matches only itself may take it for a pattern or not. -/
theorem MatchesItself.acceptsBy (own : MatchesItself isMatch p) (asPattern : Bool) :
    (Criteria.mk r (.text p)).acceptsBy isMatch asPattern v =
      (Criteria.mk r (.text p)).acceptsBy isMatch false v := by
  unfold Criteria.acceptsBy
  cases asPattern with
  | false => rfl
  | true => rw [if_pos rfl, if_neg Bool.false_ne_true, own.broadcast]

end Parameter

/-! ## Texts without wildcards -/

section Plain

variable {p : String}

theorem wildcardTokens_of_plain (plain : ¬ isWildcardPattern p) :
    wildcardTokens p.toList = p.toList.map .literal := by
  have ordinary : ∀ c ∈ p.toList, c ≠ '*' ∧ c ≠ '?' := by
    intro c member
    constructor
    · rintro rfl
      exact plain (List.any_eq_true.mpr ⟨'*', member, rfl⟩)
    · rintro rfl
      exact plain (List.any_eq_true.mpr ⟨'?', member, rfl⟩)
  rw [← wildcardTokens_escapeWildcards, escapeWildcards_eq_self ordinary]

theorem wildcardCut_of_plain (plain : ¬ isWildcardPattern p) {text : List Char} :
    WildcardCut p.toList text ↔ text = p.toList := by
  rw [wildcardCut_iff, wildcardTokens_of_plain plain, tokensCover_map_literal]

/-- A plain text that can be compiled matches itself and nothing else. -/
theorem wildcardMatches_of_plain (plain : ¬ isWildcardPattern p) (compilable : isCompilable p) :
    MatchesItself wildcardMatches p := by
  intro t
  rw [wildcardMatches_iff, and_iff_right compilable, wildcardCut_of_plain plain, String.toList_inj]

/-- To an engine that accepts it, too, a plain text matches itself and nothing else. -/
theorem RegexEngine.answer_of_plain {engine : RegexEngine} (reads : engine.ReadsAnchored)
    (plain : ¬ isWildcardPattern p) (accepted : (engine.compile? (wildcardRegex p)).isSome)
    (before : String → String → List (String × String)) :
    MatchesItself (engine.answer before) p := by
  intro t
  rw [reads.answer_iff accepted, wildcardCut_of_plain plain, String.toList_inj]

end Plain

/-! ## Pattern or not -/

/-- A text without wildcards may be taken for a pattern or not. If its expression can be compiled,
every value stands in the same relations to it by pattern and by order, and criteria accept the same
cells either way. This holds of the matcher, and of an engine, whatever has been matched before. -/
theorem RegexEngine.relates_of_plain {engine : RegexEngine} (reads : engine.ReadsAnchored)
    {p : String} (plain : ¬ isWildcardPattern p) (r : Relation) (v : Value) :
    (isCompilable p →
      v.relatesToPattern r (.text p) = v.relates r (.text p) ∧
        ∀ asPattern, (Criteria.mk r (.text p)).acceptsBy wildcardMatches asPattern v =
          (Criteria.mk r (.text p)).accepts v) ∧
    ((engine.compile? (wildcardRegex p)).isSome →
      ∀ before : String → String → List (String × String),
        Value.broadcast (.scalarMatchesBy (engine.answer before) r) v (.text p) =
            v.relates r (.text p) ∧
          ∀ asPattern, (Criteria.mk r (.text p)).acceptsBy (engine.answer before) asPattern v =
            (Criteria.mk r (.text p)).accepts v) := by
  have byOrder : (Criteria.mk r (.text p)).isPattern = false := Bool.eq_false_iff.mpr plain
  constructor
  · intro compilable
    have own := wildcardMatches_of_plain plain compilable
    refine ⟨?_, fun asPattern => ?_⟩
    · rw [Value.relatesToPattern, ← Value.scalarMatchesBy_wildcardMatches]
      exact own.broadcast r v
    · rw [own.acceptsBy, Criteria.accepts_eq_acceptsBy, byOrder]
  · intro accepted before
    have own := engine.answer_of_plain reads plain accepted before
    refine ⟨own.broadcast r v, fun asPattern => ?_⟩
    rw [own.acceptsBy, Criteria.accepts_eq_acceptsBy, byOrder]
    rfl

/-- A text of characters that mean something to an engine, beside itself, a text that its expression
would match unescaped, a blank, an error and an array. -/
theorem RegexEngine.relates_of_plain_specials :
    let p := "a.b|[c]"
    let v : Value := .array ⟨1, 5, [.text p, .text "axb", .null, .ofErrorKind .number,
      .array ⟨1, 2, [.text "a.b", .text p]⟩]⟩
    (accepting p).ReadsAnchored ∧ ¬ isWildcardPattern p ∧ isCompilable p ∧
      ((accepting p).compile? (wildcardRegex p)).isSome ∧
      v.relatesToPattern .notEqual (.text p) = v.relates .notEqual (.text p) ∧
      Value.broadcast (.scalarMatchesBy ((accepting p).answer fun _ _ => [(p, "axb")]) .notEqual) v
        (.text p) = v.relates .notEqual (.text p) := by
  intro p v
  have plain : ¬ isWildcardPattern p := by decide
  have compilable : isCompilable p := by decide
  have accepted : ((accepting p).compile? (wildcardRegex p)).isSome := by simp [accepting]
  have reads := readsAnchored_accepting p
  rcases relates_of_plain reads plain .notEqual v with ⟨matcher, given⟩
  exact ⟨reads, plain, compilable, accepted, (matcher compilable).1, (given accepted _).1⟩

end Spreadsheet
