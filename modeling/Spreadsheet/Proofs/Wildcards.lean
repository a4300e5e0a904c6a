import Mathlib.Computability.Language
import Spreadsheet.Text.Wildcard

/-!
# What wildcard patterns match

A pattern matches a text if the text can be cut into pieces that the elements of the pattern cover,
in their order (`WildcardCut`). That is so of the matcher, which works its way from the last element
to the first and keeps a mark for every suffix of the text, and it is so of a regular expression
engine that is given the translated pattern (`RegexEngine.wildcardMatches_iff_cut`).

Both go from one element to the next: `TokensCover` says what it takes for elements to cover a text,
and its lemmas how the first element takes part in that. The marks follow it suffix by suffix
(`marks_matchedSuffixes`). The engine is not part of the program. What is assumed of it is the
language of the expressions that are put to use here, literal characters, escaped ones, `.` and
`.*`, and the translation is shown to have the right language (`regexLanguage?_flatMap_toRegex`).
-/

namespace Spreadsheet

open Computability

/-! ## The elements of a pattern -/

/-- How the characters of a pattern are read as its elements, from left to right. -/
inductive WildcardReading : List Char → List WildcardToken → Prop
  | done : WildcardReading [] []
  /-- A tilde makes the character after it an ordinary one. -/
  | escaped {c : Char} {chars : List Char} {tokens : List WildcardToken} (sign : c = '*' ∨ c = '?')
      (rest : WildcardReading chars tokens) :
      WildcardReading ('~' :: c :: chars) (.literal c :: tokens)
  /-- Before anything else a tilde is one itself. -/
  | tilde {chars : List Char} {tokens : List WildcardToken}
      (other : chars.head? ≠ some '*' ∧ chars.head? ≠ some '?')
      (rest : WildcardReading chars tokens) :
      WildcardReading ('~' :: chars) (.literal '~' :: tokens)
  | anyRun {chars : List Char} {tokens : List WildcardToken}
      (rest : WildcardReading chars tokens) : WildcardReading ('*' :: chars) (.anyRun :: tokens)
  | anyOne {chars : List Char} {tokens : List WildcardToken}
      (rest : WildcardReading chars tokens) : WildcardReading ('?' :: chars) (.anyOne :: tokens)
  | literal {c : Char} {chars : List Char} {tokens : List WildcardToken}
      (plain : c ≠ '~' ∧ c ≠ '*' ∧ c ≠ '?') (rest : WildcardReading chars tokens) :
      WildcardReading (c :: chars) (.literal c :: tokens)

theorem wildcardReading_wildcardTokens (chars : List Char) :
    WildcardReading chars (wildcardTokens chars) := by
  fun_induction wildcardTokens chars with
  | case1 rest ih => exact .escaped (.inl rfl) ih
  | case2 rest ih => exact .escaped (.inr rfl) ih
  | case3 rest ih => exact .anyRun ih
  | case4 rest ih => exact .anyOne ih
  | case5 c rest noStar noMark notStar notMark ih =>
    by_cases tilde : c = '~'
    · subst tilde
      cases rest with
      | nil => exact .tilde (by decide) ih
      | cons d rest =>
        refine .tilde ⟨?_, ?_⟩ ih
        · rintro ⟨⟩
          exact noStar rest rfl rfl
        · rintro ⟨⟩
          exact noMark rest rfl rfl
    · exact .literal ⟨tilde, notStar, notMark⟩ ih
  | case6 => exact .done

theorem wildcardTokens_ordinary {c : Char} {chars : List Char} (star : c ≠ '*') (mark : c ≠ '?')
    (tilde : c = '~' → chars.head? ≠ some '*' ∧ chars.head? ≠ some '?') :
    wildcardTokens (c :: chars) = .literal c :: wildcardTokens chars := by
  rw [wildcardTokens]
  · rintro rest rfl rfl
    exact (tilde rfl).1 rfl
  · rintro rest rfl rfl
    exact (tilde rfl).2 rfl
  · exact star
  · exact mark

/-- Every pattern is read in exactly one way. -/
theorem wildcardReading_iff {chars : List Char} {tokens : List WildcardToken} :
    WildcardReading chars tokens ↔ tokens = wildcardTokens chars := by
  constructor
  · intro reading
    induction reading with
    | done => rfl
    | escaped sign rest ih =>
      rcases sign with rfl | rfl <;> rw [wildcardTokens, ← ih]
    | tilde other rest ih =>
      rw [wildcardTokens_ordinary (by decide) (by decide) fun _ => other, ← ih]
    | anyRun rest ih => rw [wildcardTokens, ← ih]
    | anyOne rest ih => rw [wildcardTokens, ← ih]
    | literal plain rest ih =>
      rw [wildcardTokens_ordinary plain.2.1 plain.2.2 fun tilde => absurd tilde plain.1, ← ih]
  · rintro rfl
    exact wildcardReading_wildcardTokens chars

/-! ## Pieces of a text -/

/-- Whether an element covers a piece of a text. -/
def WildcardToken.Covers : WildcardToken → List Char → Prop
  | .literal c, piece => piece = [c]
  | .anyOne, piece => piece.length = 1
  | .anyRun, _ => True

/-- Whether a text can be cut into pieces that elements cover, in their order. -/
def TokensCover (tokens : List WildcardToken) (text : List Char) : Prop :=
  ∃ pieces : List (List Char), List.Forall₂ WildcardToken.Covers tokens pieces ∧
    pieces.flatten = text

/-- Whether a text can be cut into pieces that the elements of a pattern cover, in their order. -/
def WildcardCut (pattern text : List Char) : Prop :=
  ∃ tokens, WildcardReading pattern tokens ∧ TokensCover tokens text

section Covering

variable {token : WildcardToken} {tokens : List WildcardToken} {text : List Char} {c x : Char}

theorem wildcardCut_iff {pattern : List Char} :
    WildcardCut pattern text ↔ TokensCover (wildcardTokens pattern) text := by
  simp only [WildcardCut, wildcardReading_iff, exists_eq_left]

theorem tokensCover_nil : TokensCover [] text ↔ text = [] := by
  constructor
  · rintro ⟨pieces, covered, rfl⟩
    cases covered
    rfl
  · rintro rfl
    exact ⟨[], .nil, rfl⟩

/-- The first element covers a prefix of the text, and the others what comes after. -/
theorem tokensCover_cons : TokensCover (token :: tokens) text ↔
    ∃ piece rest, token.Covers piece ∧ TokensCover tokens rest ∧ piece ++ rest = text := by
  constructor
  · rintro ⟨pieces, covered, rfl⟩
    cases covered with
    | cons first others => exact ⟨_, _, first, ⟨_, others, rfl⟩, rfl⟩
  · rintro ⟨piece, rest, first, ⟨pieces, others, rfl⟩, rfl⟩
    exact ⟨piece :: pieces, .cons first others, rfl⟩

theorem tokensCover_literal_cons : TokensCover (.literal c :: tokens) (x :: text) ↔
    x = c ∧ TokensCover tokens text := by
  rw [tokensCover_cons]
  constructor
  · rintro ⟨_, rest, rfl, covered, whole⟩
    obtain ⟨rfl, rfl⟩ := List.cons.inj whole
    exact ⟨rfl, covered⟩
  · rintro ⟨rfl, covered⟩
    exact ⟨[x], text, rfl, covered, rfl⟩

theorem tokensCover_anyOne_cons : TokensCover (.anyOne :: tokens) (x :: text) ↔
    TokensCover tokens text := by
  rw [tokensCover_cons]
  constructor
  · rintro ⟨piece, rest, single, covered, whole⟩
    obtain ⟨y, rfl⟩ := List.length_eq_one_iff.mp single
    obtain ⟨rfl, rfl⟩ := List.cons.inj whole
    exact covered
  · exact fun covered => ⟨[x], text, rfl, covered, rfl⟩

/-- An element for one character covers nothing of an empty text. -/
theorem not_tokensCover_nil (single : token ≠ .anyRun) : ¬ TokensCover (token :: tokens) [] := by
  rw [tokensCover_cons]
  rintro ⟨piece, rest, first, -, whole⟩
  obtain ⟨rfl, -⟩ := List.append_eq_nil_iff.mp whole
  cases token with
  | literal c => cases first
  | anyOne => cases first
  | anyRun => exact single rfl

theorem tokensCover_anyRun_nil :
    TokensCover (.anyRun :: tokens) [] ↔ TokensCover tokens [] := by
  rw [tokensCover_cons]
  constructor
  · rintro ⟨piece, rest, -, covered, whole⟩
    obtain ⟨-, rfl⟩ := List.append_eq_nil_iff.mp whole
    exact covered
  · exact fun covered => ⟨[], [], trivial, covered, rfl⟩

/-- Any run of characters is empty, or it begins with the first character of the text. -/
theorem tokensCover_anyRun_cons : TokensCover (.anyRun :: tokens) (x :: text) ↔
    TokensCover tokens (x :: text) ∨ TokensCover (.anyRun :: tokens) text := by
  simp only [tokensCover_cons]
  constructor
  · rintro ⟨piece, rest, -, covered, whole⟩
    cases piece with
    | nil =>
      obtain rfl : rest = x :: text := whole
      exact .inl covered
    | cons y piece => exact .inr ⟨piece, rest, trivial, covered, (List.cons.inj whole).2⟩
  · rintro (covered | ⟨piece, rest, -, covered, rfl⟩)
    · exact ⟨[], x :: text, trivial, covered, rfl⟩
    · exact ⟨x :: piece, rest, trivial, covered, rfl⟩

end Covering

/-! ## Marks -/

/-- Whether marks tell which suffixes of a text have a property, the text itself first. -/
inductive Marks (P : List Char → Prop) : List Char → List Bool → Prop
  | last {mark : Bool} (here : mark = true ↔ P []) : Marks P [] [mark]
  | next {x : Char} {text : List Char} {mark : Bool} {marks : List Bool}
      (here : mark = true ↔ P (x :: text)) (later : Marks P text marks) :
      Marks P (x :: text) (mark :: marks)

section Marking

variable {P : List Char → Prop} {text : List Char} {marks : List Bool}
  {tokens : List WildcardToken}

theorem Marks.headD (marked : Marks P text marks) : marks.headD false = true ↔ P text := by
  cases marked with
  | last here => exact here
  | next here _ => exact here

theorem Marks.eq_cons (marked : Marks P text marks) :
    marks = marks.headD false :: marks.drop 1 := by
  cases marked <;> rfl

theorem marks_nil (text : List Char) :
    Marks (TokensCover []) text (.replicate text.length false ++ [true]) := by
  induction text with
  | nil => exact .last (by simp only [tokensCover_nil])
  | cons x text ih => exact .next (by simp only [tokensCover_nil, reduceCtorEq]) ih

theorem Marks.literal {c : Char} (marked : Marks (TokensCover tokens) text marks) :
    Marks (TokensCover (.literal c :: tokens)) text
      (text.zipWith (fun x matched => x = c && matched) (marks.drop 1) ++ [false]) := by
  induction marked with
  | last here =>
    exact .last (iff_of_false Bool.false_ne_true (not_tokensCover_nil (fun h => nomatch h)))
  | @next x text mark marks here later ih =>
    -- What marks this suffix is the mark of the one shorter by a character.
    rw [List.drop_one, List.tail_cons, later.eq_cons, List.zipWith_cons_cons, List.cons_append]
    refine .next ?_ ih
    rw [Bool.and_eq_true, decide_eq_true_iff, later.headD, tokensCover_literal_cons]

theorem Marks.anyOne (marked : Marks (TokensCover tokens) text marks) :
    Marks (TokensCover (.anyOne :: tokens)) text (marks.drop 1 ++ [false]) := by
  induction marked with
  | last here =>
    exact .last (iff_of_false Bool.false_ne_true (not_tokensCover_nil (fun h => nomatch h)))
  | @next x text mark marks here later ih =>
    rw [List.drop_one, List.tail_cons, later.eq_cons, List.cons_append]
    exact .next (by rw [later.headD, tokensCover_anyOne_cons]) ih

theorem Marks.anyRun (marked : Marks (TokensCover tokens) text marks) :
    Marks (TokensCover (.anyRun :: tokens)) text (anySuffix marks) := by
  induction marked with
  | last here =>
    refine .last ?_
    rw [anySuffix, List.headD_nil, Bool.or_false, here, tokensCover_anyRun_nil]
  | @next x text mark marks here later ih =>
    refine .next ?_ ih
    rw [Bool.or_eq_true, here, ih.headD, tokensCover_anyRun_cons]

/-- The marks of the suffixes tell which of them the elements cover. -/
theorem marks_matchedSuffixes (tokens : List WildcardToken) (text : List Char) :
    Marks (TokensCover tokens) text (matchedSuffixes text tokens) := by
  induction tokens with
  | nil => exact marks_nil text
  | cons token tokens ih =>
    cases token with
    | literal c => exact ih.literal
    | anyOne => exact ih.anyOne
    | anyRun => exact ih.anyRun

theorem matchesTokens_iff : matchesTokens tokens text = true ↔ TokensCover tokens text :=
  (marks_matchedSuffixes tokens text).headD

end Marking

/-! ## Regular expressions -/

/-- The texts of a single character. -/
def anyCharacter : Language Char :=
  {text | ∃ c, text = [c]}

/-- The language of a regular expression of ordinary characters, escaped special ones, dots and
dots with a star, where a dot stands for every character. -/
def regexLanguage? : List Char → Option (Language Char)
  | [] => some 1
  | '\\' :: c :: rest =>
    if c ∈ regexSpecials then (regexLanguage? rest).map ({[c]} * ·) else none
  | '.' :: '*' :: rest => (regexLanguage? rest).map (anyCharacter∗ * ·)
  | '.' :: rest => (regexLanguage? rest).map (anyCharacter * ·)
  | c :: rest => if c ∈ regexSpecials then none else (regexLanguage? rest).map ({[c]} * ·)

theorem mem_kstar_anyCharacter (text : List Char) : text ∈ anyCharacter∗ := by
  rw [← List.flatMap_singleton' text, List.flatMap_def]
  refine Language.join_mem_kstar fun piece member => ?_
  obtain ⟨c, -, rfl⟩ := List.mem_map.mp member
  exact ⟨c, rfl⟩

/-- The pieces that an element covers. -/
def WildcardToken.language (token : WildcardToken) : Language Char :=
  {piece | token.Covers piece}

theorem WildcardToken.language_anyOne : language .anyOne = anyCharacter := by
  ext piece
  exact List.length_eq_one_iff

theorem WildcardToken.language_anyRun : language .anyRun = anyCharacter∗ := by
  ext piece
  exact iff_of_true trivial (mem_kstar_anyCharacter piece)

theorem mem_prod_language {tokens : List WildcardToken} {text : List Char} :
    text ∈ (tokens.map WildcardToken.language).prod ↔ TokensCover tokens text := by
  induction tokens generalizing text with
  | nil => rw [List.map_nil, List.prod_nil, Language.mem_one, tokensCover_nil]
  | cons token tokens ih =>
    rw [List.map_cons, List.prod_cons, Language.mem_mul, tokensCover_cons]
    constructor
    · rintro ⟨piece, first, rest, others, whole⟩
      exact ⟨piece, rest, first, ih.mp others, whole⟩
    · rintro ⟨piece, rest, first, others, whole⟩
      exact ⟨piece, first, rest, ih.mpr others, whole⟩

theorem regexLanguage?_ordinary {c : Char} {rest : List Char} (plain : c ∉ regexSpecials) :
    regexLanguage? (c :: rest) = (regexLanguage? rest).map ({[c]} * ·) := by
  have different : ∀ d ∈ regexSpecials, c ≠ d := fun d special same => plain (same ▸ special)
  rw [regexLanguage?, if_neg plain]
  · exact fun _ _ same _ => different '\\' (by decide) same
  · exact fun _ same _ => different '.' (by decide) same
  · exact different '.' (by decide)

theorem regexLanguage?_dot {rest : List Char} (single : rest.head? ≠ some '*') :
    regexLanguage? ('.' :: rest) = (regexLanguage? rest).map (anyCharacter * ·) := by
  rw [regexLanguage?]
  rintro rest rfl
  exact single rfl

/-- No element is translated to something that begins with a star. -/
theorem head?_flatMap_toRegex (tokens : List WildcardToken) :
    (tokens.flatMap WildcardToken.toRegex).head? ≠ some '*' := by
  match tokens with
  | [] => exact fun same => nomatch same
  | .anyOne :: _ | .anyRun :: _ => exact fun same => absurd (Option.some.inj same) (by decide)
  | .literal c :: tokens =>
    rw [List.flatMap_cons, WildcardToken.toRegex]
    split
    · exact fun same => absurd (Option.some.inj same) (by decide)
    · rename_i plain
      intro same
      exact plain (Option.some.inj same ▸ by decide)

/-- The translated elements make an expression that has the language of the elements. -/
theorem regexLanguage?_flatMap_toRegex (tokens : List WildcardToken) :
    regexLanguage? (tokens.flatMap WildcardToken.toRegex) =
      some (tokens.map WildcardToken.language).prod := by
  induction tokens with
  | nil => rfl
  | cons token tokens ih =>
    rw [List.flatMap_cons, List.map_cons, List.prod_cons]
    cases token with
    | literal c =>
      rw [WildcardToken.toRegex]
      split
      · rename_i special
        rw [List.cons_append, List.cons_append, List.nil_append, regexLanguage?, if_pos special, ih]
        rfl
      · rename_i plain
        rw [List.cons_append, List.nil_append, regexLanguage?_ordinary plain, ih]
        rfl
    | anyOne =>
      -- Before a star the dot would be read as a run, so what follows it matters.
      rw [WildcardToken.toRegex, List.cons_append, List.nil_append,
        regexLanguage?_dot (head?_flatMap_toRegex tokens), ih, WildcardToken.language_anyOne]
      rfl
    | anyRun =>
      rw [WildcardToken.toRegex, List.cons_append, List.cons_append, List.nil_append,
        regexLanguage?, ih, WildcardToken.language_anyRun]
      rfl

/-- An engine for regular expressions. -/
structure RegexEngine where
  /-- The compiled expressions. -/
  Regex : Type
  /-- The compiled form of an expression, if it is accepted. -/
  compile? : String → Option Regex
  isMatch : Regex → String → Bool

/-- Whether an engine finds a match of an anchored expression whose dot also matches line ends just
in the texts of its language. -/
structure RegexEngine.ReadsAnchored (engine : RegexEngine) : Prop where
  isMatch_iff : ∀ {body : List Char} {language : Language Char} {compiled : engine.Regex},
    regexLanguage? body = some language →
      engine.compile? ("^(?s:" ++ .ofList body ++ ")$") = some compiled →
        ∀ text : String, engine.isMatch compiled text = true ↔ text.toList ∈ language

/-! ## Matching with an engine

Compiled patterns are kept, so that each is compiled only once. What has been matched before makes
no difference.
-/

section Matching

variable (engine : RegexEngine)

/-- The compiled patterns that are kept. -/
abbrev RegexEngine.Cache := List (String × engine.Regex)

/-- The compiled form of a pattern, if it is accepted, and what is kept from then on. -/
def RegexEngine.compilePattern (cache : engine.Cache) (pattern : String) :
    Option engine.Regex × engine.Cache :=
  match cache.lookup pattern with
  | some compiled => (some compiled, cache)
  | none =>
    match engine.compile? (wildcardRegex pattern) with
    | some compiled => (some compiled, (pattern, compiled) :: cache)
    | none => (none, cache)

/-- Whether a pattern matches a text, and what is kept from then on. A pattern that is refused
matches nothing. -/
def RegexEngine.matchPattern (cache : engine.Cache) (pattern text : String) :
    Bool × engine.Cache :=
  let compiled := engine.compilePattern cache pattern
  (compiled.1.any (engine.isMatch · text), compiled.2)

/-- What is kept after a number of matches, each of a pattern and a text. -/
def RegexEngine.cacheAfter (matched : List (String × String)) : engine.Cache :=
  matched.foldl (fun cache call => (engine.matchPattern cache call.1 call.2).2) []

/-- Whether what is kept for each pattern is its compiled form. -/
def RegexEngine.Keeps (cache : engine.Cache) : Prop :=
  ∀ (pattern : String) (compiled : engine.Regex), cache.lookup pattern = some compiled →
    engine.compile? (wildcardRegex pattern) = some compiled

variable {engine} {cache : engine.Cache} {pattern text : String}

/-- Looking a pattern up gives its compiled form, and so does looking one up later. -/
theorem RegexEngine.Keeps.compilePattern (keeps : engine.Keeps cache) :
    (engine.compilePattern cache pattern).1 = engine.compile? (wildcardRegex pattern) ∧
      engine.Keeps (engine.compilePattern cache pattern).2 := by
  unfold RegexEngine.compilePattern
  split
  · rename_i compiled kept
    exact ⟨(keeps _ _ kept).symm, keeps⟩
  split
  · rename_i compiled accepted
    refine ⟨accepted.symm, fun other compiled' kept => ?_⟩
    rw [List.lookup_cons] at kept
    split at kept
    · rename_i same
      rw [beq_iff_eq.mp same, ← Option.some.inj kept]
      exact accepted
    · exact keeps _ _ kept
  · rename_i refused
    exact ⟨refused.symm, keeps⟩

theorem RegexEngine.keeps_cacheAfter (matched : List (String × String)) :
    engine.Keeps (engine.cacheAfter matched) := by
  have onward : ∀ cache : engine.Cache, engine.Keeps cache →
      engine.Keeps (matched.foldl (fun cache call => (engine.matchPattern cache call.1 call.2).2)
        cache) := by
    induction matched with
    | nil => exact fun _ keeps => keeps
    | cons call rest ih => exact fun _ keeps => ih _ keeps.compilePattern.2
  exact onward [] fun _ _ kept => nomatch kept

/-- The compiled form of a pattern matches the texts that can be cut as the pattern says. -/
theorem RegexEngine.ReadsAnchored.isMatch_wildcardRegex (reads : engine.ReadsAnchored)
    {compiled : engine.Regex} (accepted : engine.compile? (wildcardRegex pattern) = some compiled) :
    engine.isMatch compiled text = true ↔ WildcardCut pattern.toList text.toList := by
  have language := regexLanguage?_flatMap_toRegex (wildcardTokens pattern.toList)
  rw [reads.isMatch_iff language accepted, mem_prod_language, wildcardCut_iff]

theorem wildcardMatches_iff : wildcardMatches pattern text = true ↔
    isCompilable pattern = true ∧ WildcardCut pattern.toList text.toList := by
  rw [wildcardMatches, Bool.and_eq_true, matchesTokens_iff, wildcardCut_iff]

/-- What has been matched before does not show in an answer. -/
theorem RegexEngine.ReadsAnchored.matchPattern_iff (reads : engine.ReadsAnchored)
    (matched : List (String × String)) :
    (engine.matchPattern (engine.cacheAfter matched) pattern text).1 = true ↔
      (engine.compile? (wildcardRegex pattern)).isSome = true ∧
        WildcardCut pattern.toList text.toList := by
  have compiled : (engine.compilePattern (engine.cacheAfter matched) pattern).1 =
      engine.compile? (wildcardRegex pattern) := (keeps_cacheAfter matched).compilePattern.1
  rw [matchPattern, compiled]
  cases accepted : engine.compile? (wildcardRegex pattern) with
  | none => simp only [Option.any_none, Bool.false_eq_true, Option.isSome_none, false_and]
  | some r =>
    rw [Option.any_some, reads.isMatch_wildcardRegex accepted, Option.isSome_some, eq_self,
      true_and]

/-- A pattern that is accepted matches a text just if the text can be cut into pieces that the
elements of the pattern cover, in their order. This holds of the matcher, and of an engine that is
given the translated pattern, whatever has been matched before. -/
theorem RegexEngine.wildcardMatches_iff_cut (reads : engine.ReadsAnchored)
    (pattern text : String) :
    (wildcardMatches pattern text = true ↔
      isCompilable pattern = true ∧ WildcardCut pattern.toList text.toList) ∧
    ∀ matched : List (String × String),
      (engine.matchPattern (engine.cacheAfter matched) pattern text).1 = true ↔
        (engine.compile? (wildcardRegex pattern)).isSome = true ∧
          WildcardCut pattern.toList text.toList :=
  ⟨wildcardMatches_iff, reads.matchPattern_iff⟩

/-- An engine that accepts a single pattern. -/
def RegexEngine.accepting (pattern : String) : RegexEngine where
  Regex := List WildcardToken
  compile? source :=
    if source = wildcardRegex pattern then some (wildcardTokens pattern.toList) else none
  isMatch tokens text := matchesTokens tokens text.toList

theorem RegexEngine.readsAnchored_accepting (pattern : String) :
    (accepting pattern).ReadsAnchored where
  isMatch_iff := by
    intro body language compiled read accepted text
    obtain ⟨same, tokens⟩ := Option.ite_none_right_eq_some.mp accepted
    obtain rfl : wildcardTokens pattern.toList = compiled := Option.some.inj tokens
    have translated : body = (wildcardTokens pattern.toList).flatMap WildcardToken.toRegex := by
      rw [wildcardRegex, String.append_left_inj, String.append_right_inj] at same
      exact String.ofList_injective same
    rw [translated, regexLanguage?_flatMap_toRegex] at read
    rw [← Option.some.inj read, mem_prod_language]
    exact matchesTokens_iff

/-- A pattern with an escaped question mark, before a run of characters, on one of its texts, after
it has been matched before. -/
theorem RegexEngine.wildcardMatches_iff_cut_escaped :
    wildcardMatches "a~?*" "a?b" = true ∧
      ((accepting "a~?*").matchPattern ((accepting "a~?*").cacheAfter [("a~?*", "ab")])
        "a~?*" "a?b").1 = true := by
  have ⟨matcher, given⟩ :=
    wildcardMatches_iff_cut (readsAnchored_accepting "a~?*") "a~?*" "a?b"
  have reading : WildcardReading ['a', '~', '?', '*'] [.literal 'a', .literal '?', .anyRun] :=
    .literal (by decide) (.escaped (.inr rfl) (.anyRun .done))
  have cut : WildcardCut ['a', '~', '?', '*'] ['a', '?', 'b'] :=
    ⟨_, reading, [['a'], ['?'], ['b']], .cons rfl (.cons rfl (.cons trivial .nil)), rfl⟩
  exact ⟨matcher.mpr ⟨by decide, cut⟩, (given _).mpr ⟨by simp [accepting], cut⟩⟩

/-- What an engine answers after the matches that went before. -/
def RegexEngine.answer (engine : RegexEngine)
    (before : String → String → List (String × String)) (pattern text : String) : Bool :=
  (engine.matchPattern (engine.cacheAfter (before pattern text)) pattern text).1

/-- A pattern that is accepted is answered as it says, whatever went before. -/
theorem RegexEngine.ReadsAnchored.answer_iff (reads : engine.ReadsAnchored)
    (accepted : (engine.compile? (wildcardRegex pattern)).isSome)
    (before : String → String → List (String × String)) :
    engine.answer before pattern text = true ↔ WildcardCut pattern.toList text.toList :=
  (reads.matchPattern_iff _).trans (and_iff_right accepted)

end Matching

end Spreadsheet
