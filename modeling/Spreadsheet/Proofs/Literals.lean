import Spreadsheet.Value.Basic

/-!
# What literals denote

A token is tried as an error, a truth value and a number before it is taken for a quoted text. The
first character alone rules these out: the token of an error begins with a hash
(`ErrorKind.ofToken?_eq_none`), and a numeral with a digit, a sign, a point or the mark of its
exponent (`Number.ofText?_eq_error`). So a text between quotes is read as itself, whatever it holds
(`Value.ofLiteral_quoted`).
-/

namespace Spreadsheet

/-- A text that begins with a character that is not blank begins with it when it is trimmed. -/
theorem exists_trimBlanks_cons {c : Char} {chars : List Char} (visible : ¬ isBlank c) :
    ∃ rest, trimBlanks (c :: chars) = c :: rest := by
  have last : (chars.reverse ++ [c]).dropWhile isBlank =
      chars.reverse.dropWhile isBlank ++ [c] := by
    rw [List.dropWhile_append]
    split
    · rename_i blank
      rw [List.isEmpty_iff.mp blank, List.dropWhile_cons_of_neg visible, List.nil_append]
    · rfl
  refine ⟨(chars.reverse.dropWhile isBlank).reverse, ?_⟩
  rw [trimBlanks, List.dropWhile_cons_of_neg visible, List.reverse_cons, last,
    List.reverse_append, List.reverse_singleton, List.singleton_append]

section Beginnings

variable {token : String} {c : Char} {rest : List Char}

/-- Texts whose first characters differ in more than their case are different. -/
theorem equalIgnoringAsciiCase_eq_false {other : String} {d : Char} {others : List Char}
    (left : token.toList = c :: rest) (right : other.toList = d :: others)
    (different : c.toLower ≠ d.toLower) : equalIgnoringAsciiCase token other = false := by
  rw [equalIgnoringAsciiCase, asciiFold, asciiFold, left, right, List.map_cons, List.map_cons,
    beq_eq_false_iff_ne]
  exact fun same => different (List.cons.inj same).1

theorem ErrorKind.exists_toList_token (kind : ErrorKind) :
    ∃ others, kind.token.toList = '#' :: others := by
  cases kind <;> exact ⟨_, rfl⟩

/-- The token of an error begins with a hash. -/
theorem ErrorKind.ofToken?_eq_none (trimmed : trimBlanks token.toList = c :: rest)
    (different : '#' ≠ c.toLower) : ofToken? token = none := by
  refine List.find?_eq_none.mpr fun kind _ => ?_
  obtain ⟨others, hash⟩ := kind.exists_toList_token
  have beginning : (trimText token).toList = c :: rest := by
    rw [trimText, String.toList_ofList, trimmed]
  rw [equalIgnoringAsciiCase_eq_false hash beginning different]
  exact Bool.false_ne_true

/-- A numeral begins with a digit, a sign, a point or the mark of its exponent. -/
theorem Decimal.ofChars?_eq_none (digit : ¬ c.isDigit) (other : c ∉ ['+', '-', '.', 'e', 'E']) :
    ofChars? (c :: rest) = none := by
  simp only [List.mem_cons, List.not_mem_nil, or_false, not_or] at other
  obtain ⟨plus, minus, point, small, capital⟩ := other
  have unsigned : ∀ chars, ofUnsignedChars? (c :: chars) = none := by
    intro chars
    simp only [ofUnsignedChars?]
    rw [List.takeWhile_cons_of_pos (by simpa using point), List.cons_append, List.all_cons,
      Bool.eq_false_iff.mpr digit, Bool.false_and]
    exact if_neg fun valid => Bool.false_ne_true valid.2
  have mantissa : ∀ chars, ofMantissa? (c :: chars) = none := by
    intro chars
    unfold ofMantissa?
    split
    · rename_i same
      exact absurd (List.cons.inj same).1 minus
    · rename_i same
      exact absurd (List.cons.inj same).1 plus
    · exact unsigned chars
  simp only [ofChars?]
  rw [List.takeWhile_cons_of_pos (by simp [small, capital]), mantissa]
  exact ite_self none

/-- A text is no number if it begins otherwise than numerals do. -/
theorem Number.ofText?_eq_error (trimmed : trimBlanks token.toList = c :: rest)
    (digit : ¬ c.isDigit) (other : c ∉ ['+', '-', '.', 'e', 'E']) :
    ofText? token = .error (.malformed (.ofList (c :: rest))) := by
  have unread : Decimal.ofChars? (c :: rest) = none := Decimal.ofChars?_eq_none digit other
  have plus : c ≠ '+' := fun same => other (same ▸ List.mem_cons_self)
  simp only [ofText?, trimmed]
  split
  · rename_i read
    split at read
    · rename_i same
      exact absurd (List.cons.inj same).1 plus
    · rw [unread] at read
      cases read
  · rfl

end Beginnings

/-- A text between quotes, with its own quotes doubled, denotes itself. -/
theorem Value.ofLiteral_quoted (content : List Char) :
    ofLiteral (.ofList ('"' :: (doubleQuotes '"' content ++ ['"']))) =
      .text (.ofList content) := by
  generalize written : String.ofList ('"' :: (doubleQuotes '"' content ++ ['"'])) = token
  have chars : token.toList = '"' :: (doubleQuotes '"' content ++ ['"']) := by
    rw [← written, String.toList_ofList]
  obtain ⟨rest, trimmed⟩ : ∃ rest, trimBlanks token.toList = '"' :: rest :=
    chars ▸ exists_trimBlanks_cons (by decide)
  have noError : ErrorKind.ofToken? token = none :=
    ErrorKind.ofToken?_eq_none trimmed (by decide)
  have noNumber := Number.ofText?_eq_error trimmed (by decide) (by decide)
  have notTrue : equalIgnoringAsciiCase token "TRUE" = false :=
    equalIgnoringAsciiCase_eq_false chars (by rfl) (by decide)
  have notFalse : equalIgnoringAsciiCase token "FALSE" = false :=
    equalIgnoringAsciiCase_eq_false chars (by rfl) (by decide)
  simp only [ofLiteral, noError, notTrue, notFalse, noNumber, Bool.false_eq_true, if_false]
  rw [chars, unquote?_doubleQuotes]

end Spreadsheet
