import Spreadsheet.Proofs.Lexical
import Spreadsheet.Proofs.Literals
import Spreadsheet.Proofs.Numerals
import Spreadsheet.Proofs.ReferenceTokens

/-!
# Leaves of formulas

A leaf is a parameter, a literal or a reference. A token of the form of a reference ends in a digit
and begins, after the name of a sheet, with a letter or a dollar sign. No literal does: a numeral
begins with a digit, a sign or a point, and all others end in something else
(`not_looksLikeReference_of_isLiteral`). So outside of lambdas the class of a leaf follows from its
token, in whatever order the classes are asked (`Builder.classify_of_isLeaf`).
-/

namespace Spreadsheet

/-! ## The ends of literals -/

section Ends

variable {token : String} {c : Char}

/-- A reference ends in a digit. -/
theorem exists_getLast?_of_looksLikeReference (reference : looksLikeReference token) :
    ∃ c, (trimBlanks token.toList).getLast? = some c ∧ c.isDigit := by
  obtain ⟨-, t, cells⟩ := looksLikeReference_iff.mp reference
  obtain ⟨before, whole, -⟩ := exists_append_afterLastMark (trimBlanks token.toList)
  obtain ⟨c, last, digit⟩ := t.exists_getLast?
  refine ⟨c, ?_, digit⟩
  rw [whole, cells, List.getLast?_append, last, Option.some_or]

theorem enclosed?_eq_some_iff {opening closing : Char} {chars content : List Char} :
    enclosed? opening closing chars = some content ↔
      chars = opening :: (content ++ [closing]) := by
  constructor
  · intro enclosed
    cases chars with
    | nil => cases enclosed
    | cons c rest =>
      simp only [enclosed?, Option.ite_none_right_eq_some, Option.some.injEq] at enclosed
      obtain ⟨⟨rfl, last⟩, rfl⟩ := enclosed
      rw [List.dropLast_append_getLast? closing last]
  · rintro rfl
    exact enclosed?_append_singleton

/-- A text between two visible characters has no blanks around it. -/
theorem trimBlanks_enclosed {opening closing : Char} (first : ¬ isBlank opening)
    (last : ¬ isBlank closing) (content : List Char) :
    trimBlanks (opening :: (content ++ [closing])) = opening :: (content ++ [closing]) := by
  refine trimBlanks_eq_self ?_ ?_
  · rintro c ⟨⟩
    exact first
  · intro c final
    rw [← List.cons_append, List.getLast?_concat] at final
    exact Option.some.inj final ▸ last

theorem toLower_of_isDigit (digit : c.isDigit) : c.toLower = c := by
  have ascii : c.toNat < 128 := by
    rw [isDigit_iff_toNat] at digit
    omega
  exact forall_ascii (P := fun c => c.isDigit → c.toLower = c) (by decide +kernel) ascii digit

theorem isAlpha_of_toLower (letter : c.toLower.isAlpha) : c.isAlpha := by
  have small : c.toLower.toNat < 128 := by
    rw [isAlpha_iff_toNat] at letter
    omega
  exact forall_ascii (P := fun c => c.toLower.isAlpha → c.isAlpha) (by decide +kernel)
    (toNat_lt_of_toLower small) letter

theorem not_isBlank_of_isAlpha (letter : c.isAlpha) : ¬ isBlank c := by
  rw [isAlpha_iff_toNat] at letter
  exact not_isBlank_of_printable (by omega) (by omega)

/-- A word has letters only, whatever their case. -/
theorem isAlpha_of_equalIgnoringAsciiCase {word : String}
    (same : equalIgnoringAsciiCase token word) (letters : (asciiFold word).all Char.isAlpha)
    (member : c ∈ token.toList) : c.isAlpha := by
  rw [equalIgnoringAsciiCase, beq_iff_eq] at same
  have folded : c.toLower ∈ asciiFold token := List.mem_map_of_mem member
  exact isAlpha_of_toLower (List.all_eq_true.mp letters _ (same ▸ folded))

end Ends

/-! ## No literal is a reference -/

section Literals

variable {token : String}

theorem not_looksLikeReference_of_word {word : String} (same : equalIgnoringAsciiCase token word)
    (letters : (asciiFold word).all Char.isAlpha) : ¬ looksLikeReference token := by
  intro reference
  obtain ⟨c, last, digit⟩ := exists_getLast?_of_looksLikeReference reference
  have member : c ∈ token.toList := mem_of_mem_trimBlanks (List.mem_of_getLast? last)
  exact not_isAlpha_of_isDigit digit (isAlpha_of_equalIgnoringAsciiCase same letters member)

/-- The token of an error ends in a mark or a letter. -/
theorem ErrorKind.not_isDigit_of_getLast? {kind : ErrorKind} {c : Char}
    (last : (asciiFold kind.token).getLast? = some c) : ¬ c.isDigit := by
  have ends : ∀ kind ∈ all, (asciiFold kind.token).getLast?.map Char.isDigit ≠ some true := by
    decide +kernel
  have final := ends kind kind.mem_all
  rw [last] at final
  exact fun digit => final (congrArg some digit)

/-- The token of an error is written between blanks, in any case. -/
theorem ErrorKind.asciiFold_token {kind : ErrorKind} (read : ofToken? token = some kind) :
    asciiFold kind.token = (trimBlanks token.toList).map Char.toLower := by
  have same : asciiFold kind.token = asciiFold (trimText token) := beq_iff_eq.mp
    (List.find?_some (p := fun kind : ErrorKind => equalIgnoringAsciiCase kind.token _) read)
  rw [same, asciiFold, trimText, String.toList_ofList]

theorem not_looksLikeReference_of_error {kind : ErrorKind}
    (read : ErrorKind.ofToken? token = some kind) : ¬ looksLikeReference token := by
  intro reference
  obtain ⟨c, last, digit⟩ := exists_getLast?_of_looksLikeReference reference
  have folded : (asciiFold kind.token).getLast? = some c := by
    rw [ErrorKind.asciiFold_token read, List.getLast?_map, last, Option.map_some,
      toLower_of_isDigit digit]
  exact kind.not_isDigit_of_getLast? folded digit

/-- A numeral begins with a digit, a sign or a point. -/
theorem Numeral.Readable.exists_cons {n : Numeral} (readable : n.Readable) :
    ∃ c rest, n.chars = c :: rest ∧ (c.isDigit ∨ c = '.' ∨ c = '+' ∨ c = '-') := by
  have nonempty : n.mantissa ≠ [] := List.append_ne_nil_of_right_ne_nil _ readable.body_ne_nil
  obtain ⟨c, rest, shape⟩ := List.exists_cons_of_ne_nil nonempty
  refine ⟨c, rest ++ n.exponent.elim [] ExponentPart.chars, ?_,
    plain_of_mem_mantissa (shape ▸ List.mem_cons_self)⟩
  rw [chars, shape, List.cons_append]

/-- The characters of a numeral. -/
theorem Numeral.mem_chars {n : Numeral} {c : Char} (member : c ∈ n.chars) :
    c.isDigit ∨ c ∈ ['.', '+', '-', 'e', 'E'] := by
  rcases List.mem_append.mp member with before | power
  · rcases plain_of_mem_mantissa before with digit | rfl | rfl | rfl
    · exact .inl digit
    · exact .inr (by decide)
    · exact .inr (by decide)
    · exact .inr (by decide)
  · cases scaled : n.exponent with
    | none =>
      rw [scaled] at power
      cases power
    | some e =>
      rw [scaled, Option.elim_some, ExponentPart.chars, List.mem_cons, List.mem_append] at power
      rcases power with rfl | sign | digit
      · rcases e.isMark with small | capital
        · exact .inr (by simp [small])
        · exact .inr (by simp [capital])
      · cases mark : e.sign <;> rw [mark] at sign <;> simp [SignMark.chars] at sign
        · exact .inr (by simp [sign])
        · exact .inr (by simp [sign])
      · exact .inl (e.decimal c digit)

/-- A numeral begins, between blanks, with a digit, a sign or a point. -/
theorem Number.exists_trimBlanks_cons {x : Number} (read : ofText? token = .ok x) :
    ∃ c rest, trimBlanks token.toList = c :: rest ∧
      (c.isDigit ∨ c = '.' ∨ c = '+' ∨ c = '-') := by
  obtain ⟨n, readable, standing⟩ := exists_numeral read
  rcases standing with whole | plus
  · obtain ⟨c, rest, shape, plain⟩ := readable.exists_cons
    exact ⟨c, rest, whole.trans shape, plain⟩
  · exact ⟨'+', n.chars, plus, .inr (.inr (.inl rfl))⟩

/-- The characters of a numeral between blanks. -/
theorem Number.of_mem_trimBlanks {x : Number} {c : Char} (read : ofText? token = .ok x)
    (member : c ∈ trimBlanks token.toList) : c.isDigit ∨ c ∈ ['.', '+', '-', 'e', 'E'] := by
  obtain ⟨n, -, whole | plus⟩ := exists_numeral read
  · exact Numeral.mem_chars (whole ▸ member)
  · rcases List.mem_cons.mp (plus ▸ member) with rfl | inside
    · exact .inr (by decide)
    · exact Numeral.mem_chars inside

/-- A number has no exclamation mark, and begins neither with a letter nor with a dollar sign. -/
theorem not_looksLikeReference_of_number {x : Number} (read : Number.ofText? token = .ok x) :
    ¬ looksLikeReference token := by
  intro reference
  obtain ⟨-, t, cells⟩ := looksLikeReference_iff.mp reference
  have unmarked : '!' ∉ trimBlanks token.toList :=
    fun marked => absurd (Number.of_mem_trimBlanks read marked) (by decide)
  rw [afterLastMark_eq_self unmarked] at cells
  obtain ⟨c, rest, beginning, shaped⟩ := t.exists_head?
  obtain ⟨d, others, same, plain⟩ := Number.exists_trimBlanks_cons read
  obtain ⟨rfl, -⟩ := List.cons.inj ((same.symm.trans cells).trans beginning)
  rcases plain with digit | rfl | rfl | rfl
  · rcases shaped with rfl | letter
    · cases digit
    · exact not_isAlpha_of_isDigit digit letter
  · revert shaped
    decide
  · revert shaped
    decide
  · revert shaped
    decide

theorem not_looksLikeReference_of_enclosed {opening closing : Char} {content : List Char}
    (enclosed : enclosed? opening closing token.toList = some content) (first : ¬ isBlank opening)
    (last : ¬ isBlank closing) (other : ¬ closing.isDigit) : ¬ looksLikeReference token := by
  intro reference
  obtain ⟨c, final, digit⟩ := exists_getLast?_of_looksLikeReference reference
  rw [enclosed?_eq_some_iff.mp enclosed, trimBlanks_enclosed first last, ← List.cons_append,
    List.getLast?_concat] at final
  exact other (Option.some.inj final ▸ digit)

/-- No literal has the form of a reference. -/
theorem not_looksLikeReference_of_isLiteral (literal : isLiteral token) :
    ¬ looksLikeReference token := by
  simp only [isLiteral, Bool.or_eq_true, or_assoc] at literal
  rcases literal with word | word | error | number | quoted | array
  · exact not_looksLikeReference_of_word word (by decide)
  · exact not_looksLikeReference_of_word word (by decide)
  · obtain ⟨kind, read⟩ := Option.isSome_iff_exists.mp error
    exact not_looksLikeReference_of_error read
  · cases read : Number.ofText? token with
    | error e =>
      rw [read] at number
      cases number
    | ok x => exact not_looksLikeReference_of_number read
  · obtain ⟨content, enclosed⟩ := Option.isSome_iff_exists.mp quoted
    exact not_looksLikeReference_of_enclosed enclosed (by decide) (by decide) (by decide)
  · obtain ⟨content, enclosed⟩ := Option.isSome_iff_exists.mp array
    exact not_looksLikeReference_of_enclosed enclosed (by decide) (by decide) (by decide)

end Literals

/-! ## Classes of leaves -/

section Classes

variable {b : Builder} {lambdas : List OpenLambda} {t : ParseTree} {c : NodeClass}

/-- A leaf that is no parameter can only be a literal or a reference. -/
theorem NodeClass.claims_leaf (leaf : t.isLeaf) (free : parameterScope? lambdas t.token = none) :
    c.claims lambdas t ↔
      c = .value ∧ isLiteral t.token ∨ c = .reference ∧ looksLikeReference t.token := by
  have parts : t.isCall = false ∧ t.children = [] := by
    simpa [ParseTree.isLeaf] using leaf
  cases c <;> simp [claims, leaf, free, parts, Operator.ofToken?_zero]

/-- Whether a builder asks for literals and for references, in any order and among other classes. -/
structure Builder.ReadsLeaves (b : Builder) : Prop where
  value : .value ∈ b.classes
  reference : .reference ∈ b.classes

theorem Builder.readsLeaves_standard (config : Config) : (standard config).ReadsLeaves :=
  ⟨by simp [standard, ofClasses], by simp [standard, ofClasses]⟩

/-- The class that claims a tree if no other one does. -/
theorem Builder.classify_of_unique (asked : c ∈ b.classes)
    (claims : ∀ d : NodeClass, d.claims lambdas t ↔ d = c) : b.classify lambdas t = c := by
  obtain ⟨d, found⟩ : ∃ d, b.classes.find? (·.claims lambdas t) = some d :=
    Option.isSome_iff_exists.mp (List.find?_isSome.mpr ⟨c, asked, (claims c).mpr rfl⟩)
  have claimed : d.claims lambdas t :=
    List.find?_some (p := fun d : NodeClass => d.claims lambdas t) found
  rw [classify, found, Option.getD_some]
  exact (claims d).mp claimed

/-- The class of a leaf that is no parameter follows from its token. -/
theorem Builder.classify_of_isLeaf (reads : b.ReadsLeaves) (leaf : t.isLeaf)
    (free : parameterScope? lambdas t.token = none) :
    b.classify lambdas t =
      if isLiteral t.token then .value
      else if looksLikeReference t.token then .reference else .error := by
  have claims := fun d : NodeClass => NodeClass.claims_leaf (c := d) leaf free
  split
  · rename_i literal
    have other := not_looksLikeReference_of_isLiteral literal
    refine classify_of_unique reads.value fun d => (claims d).trans ?_
    simp [literal, other]
  split
  · rename_i other reference
    refine classify_of_unique reads.reference fun d => (claims d).trans ?_
    simp [other, reference]
  · rename_i other shapeless
    have unclaimed : b.classes.find? (·.claims lambdas t) = none := by
      refine List.find?_eq_none.mpr fun d _ claimed => ?_
      rcases (claims d).mp claimed with ⟨-, literal⟩ | ⟨-, reference⟩
      · exact other literal
      · exact shapeless reference
    rw [classify, unclaimed, Option.getD_none]

/-- A leaf that is a literal and no parameter becomes a constant. -/
theorem Builder.make_of_isLiteral (config : Config) (path : ScopeId)
    (literal : isLiteral t.token) (leaf : t.isLeaf)
    (free : parameterScope? lambdas t.token = none) :
    (standard config).make lambdas path ((standard config).classify lambdas t) t =
      .literal t.token (.ofConstant t.token) none := by
  rw [classify_of_isLeaf (readsLeaves_standard config) leaf free, if_pos literal]
  cases t
  rfl

/-- A leaf of the form of a reference that is no parameter is read as one. -/
theorem Builder.make_of_looksLikeReference (config : Config) (path : ScopeId)
    (reference : looksLikeReference t.token) (leaf : t.isLeaf)
    (free : parameterScope? lambdas t.token = none) :
    (standard config).make lambdas path ((standard config).classify lambdas t) t =
      .ofReference config t.token := by
  rw [classify_of_isLeaf (readsLeaves_standard config) leaf free,
    if_neg fun literal => not_looksLikeReference_of_isLiteral literal reference, if_pos reference]
  cases t
  rfl

end Classes

/-- No token is both a literal and of the form of a reference. So the node of a leaf outside of the
lambdas that declare its token is the same whichever of the two classes is asked first. -/
theorem isLiteral_disjoint_looksLikeReference :
    (∀ token, ¬ (isLiteral token ∧ looksLikeReference token)) ∧
      ∀ (b b' : Builder) (lambdas : List OpenLambda) (path : ScopeId) (t : ParseTree),
        b.config = b'.config → b.ReadsLeaves → b'.ReadsLeaves → t.isLeaf →
        parameterScope? lambdas t.token = none →
        (isLiteral t.token → b.classify lambdas t = .value) ∧
          (looksLikeReference t.token → b.classify lambdas t = .reference) ∧
          b.make lambdas path (b.classify lambdas t) t =
            b'.make lambdas path (b'.classify lambdas t) t := by
  refine ⟨fun token both => not_looksLikeReference_of_isLiteral both.1 both.2, ?_⟩
  intro b b' lambdas path t config reads reads' leaf free
  rw [Builder.classify_of_isLeaf reads leaf free, Builder.classify_of_isLeaf reads' leaf free]
  refine ⟨fun literal => if_pos literal, fun reference => ?_, ?_⟩
  · rw [if_neg fun literal => not_looksLikeReference_of_isLiteral literal reference,
      if_pos reference]
  · rcases t with ⟨token, children, isCall, invocation⟩
    split
    · rfl
    split
    · simp only [Builder.make, config]
    · rfl

/-- A letter before the digits makes a cell, a digit before the letter a number, and quotes a text
even around a reference. -/
theorem isLiteral_disjoint_looksLikeReference_exponent :
    let config : Config := { unit := "book", sheet := "one" }
    let b : Builder := ⟨config, [.reference, .value]⟩
    let b' : Builder := ⟨config, [.value, .reference]⟩
    looksLikeReference "E5" ∧ b.classify [] (.leaf "E5") = .reference ∧
      isLiteral "1E5" ∧ b.classify [] (.leaf "1E5") = .value ∧
      isLiteral "\"Data!A1\"" ∧ b.classify [] (.leaf "\"Data!A1\"") = .value ∧
      b.make [] [] (b.classify [] (.leaf "E5")) (.leaf "E5") =
        b'.make [] [] (b'.classify [] (.leaf "E5")) (.leaf "E5") := by
  intro config b b'
  have reads : b.ReadsLeaves := ⟨by decide, by decide⟩
  have reads' : b'.ReadsLeaves := ⟨by decide, by decide⟩
  have each := fun token =>
    isLiteral_disjoint_looksLikeReference.2 b b' [] [] (.leaf token) rfl reads reads' rfl rfl
  have cell : looksLikeReference "E5" := by decide +kernel
  have number : isLiteral "1E5" := by decide +kernel
  have text : isLiteral "\"Data!A1\"" := by decide +kernel
  exact ⟨cell, (each "E5").2.1 cell, number, (each "1E5").1 number, text,
    (each "\"Data!A1\"").1 text, (each "E5").2.2⟩

/-! ## Recognised references -/

/-- The sheet that a reference is to: the active one, unless it names another. -/
def Config.sheetOf? (config : Config) (r : RangeAddress) : Option String :=
  r.sheet.elim (some config.sheet) config.resolveSheet?

/-- The node of a token of the form of a reference: the range that is read from it, unless nothing
is read or the sheet is not known. -/
theorem Node.ofReference_cases (config : Config) (token : String) :
    (∃ r sheet, RangeAddress.ofText? token = .ok r ∧ config.sheetOf? r = some sheet ∧
        ofReference config token = .reference token config.unit sheet r.range none) ∨
      (∀ r, RangeAddress.ofText? token = .ok r → config.sheetOf? r = none) ∧
      ∃ e : AddressError,
        ofReference config token = .failure token ⟨.reference, some e.message⟩ none := by
  cases read : RangeAddress.ofText? token with
  | error e =>
    refine .inr ⟨fun r same => (nomatch same), e, ?_⟩
    rw [ofReference, Config.locate, read]
    rfl
  | ok r =>
    rcases r with ⟨_ | name, range⟩
    · refine .inl ⟨_, config.sheet, rfl, rfl, ?_⟩
      rw [ofReference, Config.locate, read]
      rfl
    · cases known : config.resolveSheet? name with
      | some sheet =>
        refine .inl ⟨_, sheet, rfl, known, ?_⟩
        simp only [ofReference, Config.locate, read, bind, Except.bind, known]
        rfl
      | none =>
        refine .inr ⟨?_, .unknownSheet name, ?_⟩
        · rintro _ ⟨⟩
          exact known
        · simp only [ofReference, Config.locate, read, bind, Except.bind, known]
          rfl

/-- The form of a reference and the reader of references agree. What has the form is read, or its
column or row is out of range; what is read has the form, unless a blank stands among its cells. So
outside of the lambdas that declare it such a token becomes a reference, or an error of references
when its cells are out of range or its sheet is not known. -/
theorem RangeAddress.recognition_agrees (token : String) :
    (looksLikeReference token →
        (∃ r, ofText? token = .ok r) ∨ ofText? token = .error .columnOutOfRange ∨
          ofText? token = .error .rowOutOfRange) ∧
      ((∃ r, ofText? token = .ok r) →
        (∀ c ∈ afterLastMark (trimBlanks token.toList), ¬ isBlank c) → looksLikeReference token) ∧
      ∀ (config : Config) (lambdas : List OpenLambda) (path : ScopeId) (t : ParseTree),
        t.isLeaf → t.token = token → parameterScope? lambdas token = none →
        looksLikeReference token →
        let b := Builder.standard config
        let node := b.make lambdas path (b.classify lambdas t) t
        (∃ r sheet, ofText? token = .ok r ∧ config.sheetOf? r = some sheet ∧
            node = .reference token config.unit sheet r.range none) ∨
          (∀ r, ofText? token = .ok r → config.sheetOf? r = none) ∧
          ∃ e : AddressError, node = .failure token ⟨.reference, some e.message⟩ none := by
  refine ⟨fun reference => ?_, ?_, ?_⟩
  · obtain ⟨named, t, cells⟩ := looksLikeReference_iff.mp reference
    rcases CellsText.ofText?_cases named cells with read | ⟨e, rfl | rfl, failed⟩
    · exact .inl read
    · exact .inr (.inl failed)
    · exact .inr (.inr failed)
  · rintro ⟨r, read⟩ visible
    exact looksLikeReference_iff.mpr (exists_cellsText read visible)
  · rintro config lambdas path t leaf rfl free reference b node
    have made : node = .ofReference config t.token :=
      Builder.make_of_looksLikeReference config path reference leaf free
    rw [made]
    exact Node.ofReference_cases config t.token

/-- A sheet whose name has a mark and a colon in it, and a column that is out of range. -/
theorem RangeAddress.recognition_agrees_quoted :
    let config : Config := { unit := "book", sheet := "one", sheetNames := [("a!:", "two")] }
    looksLikeReference " 'a!:'!$b2:A1 " ∧
      (Builder.standard config).build (.leaf " 'a!:'!$b2:A1 ") =
        .reference " 'a!:'!$b2:A1 " "book" "two" ⟨0, 0, 1, 1⟩ none ∧
      looksLikeReference "A1:XFE1" ∧ ¬ ∃ text, ofText? "A1:XFE1" = .error (.malformed text) := by
  intro config
  have read : ofText? " 'a!:'!$b2:A1 " = .ok ⟨some "a!:", ⟨0, 0, 1, 1⟩⟩ := rfl
  have visible : (afterLastMark (trimBlanks " 'a!:'!$b2:A1 ".toList)).any isBlank = false := by
    decide
  have reference : looksLikeReference " 'a!:'!$b2:A1 " :=
    (recognition_agrees _).2.1 ⟨_, read⟩ (List.any_eq_false.mp visible)
  have wide : looksLikeReference "A1:XFE1" := by decide +kernel
  refine ⟨reference, ?_, wide, ?_⟩
  · rcases (recognition_agrees _).2.2 config [] [] (.leaf _) rfl rfl rfl reference with
      ⟨r, sheet, same, known, made⟩ | ⟨unknown, -⟩
    · cases read.symm.trans same
      cases known
      exact made
    · cases unknown _ read
  · rintro ⟨text, malformed⟩
    rcases (recognition_agrees _).1 wide with ⟨r, read⟩ | column | row
    · cases malformed.symm.trans read
    · cases malformed.symm.trans column
    · cases malformed.symm.trans row

end Spreadsheet
