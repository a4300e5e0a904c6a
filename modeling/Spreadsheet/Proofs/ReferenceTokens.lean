import Spreadsheet.Proofs.WrittenReferences

/-!
# Tokens with the form of references

A token is recognised as a reference by its form alone, and read by a scanner of its own, which counts
columns and rows and takes blanks away around each corner. The tokens that are recognised are those
whose cells, after the last exclamation mark, are one address or two with a colon between them
(`looksLikeReference_iff`). Reading such cells can only fail because a column or a row is out of range
(`CellsText.ofText?_cases`), and cells that can be read have this form if no blank is among them
(`exists_cellsText`).
-/

namespace Spreadsheet

/-! ## The cells of a reference -/

/-- The characters after the last exclamation mark, or all of them if there is none. -/
def afterLastMark (chars : List Char) : List Char :=
  (chars.reverse.takeWhile (· ≠ '!')).reverse

section LastMark

variable {before after chars : List Char}

theorem afterLastMark_append (absent : '!' ∉ after) :
    afterLastMark (before ++ '!' :: after) = after := by
  have turned : (before ++ '!' :: after).reverse = after.reverse ++ '!' :: before.reverse := by
    rw [List.reverse_append, List.reverse_cons, List.append_assoc, List.singleton_append]
  have inside := forall_ne_separator fun member => absent (List.mem_reverse.mp member)
  rw [afterLastMark, turned, List.takeWhile_append_of_pos inside,
    List.takeWhile_cons_of_neg (by decide), List.append_nil, List.reverse_reverse]

theorem afterLastMark_eq_self (absent : '!' ∉ chars) : afterLastMark chars = chars := by
  have inside := forall_ne_separator fun member => absent (List.mem_reverse.mp member)
  rw [afterLastMark, List.takeWhile_eq_self_iff.mpr inside, List.reverse_reverse]

/-- A text with an exclamation mark has a last one. -/
theorem exists_last_mark (marked : '!' ∈ chars) :
    ∃ before after, chars = before ++ '!' :: after ∧ '!' ∉ after := by
  obtain ⟨after, before, turned, absent⟩ :=
    List.eq_append_cons_of_mem (List.mem_reverse.mpr marked)
  refine ⟨before.reverse, after.reverse, ?_, fun member => absent (List.mem_reverse.mp member)⟩
  rw [← chars.reverse_reverse, turned, List.reverse_append, List.reverse_cons, List.append_assoc,
    List.singleton_append]

/-- The cells end the text, and a mark stands before them unless they are the whole text. -/
theorem exists_append_afterLastMark (chars : List Char) :
    ∃ before, chars = before ++ afterLastMark chars ∧ (before = [] ∨ '!' ∈ before) := by
  by_cases marked : '!' ∈ chars
  · obtain ⟨before, after, rfl, absent⟩ := exists_last_mark marked
    refine ⟨before ++ ['!'], ?_, .inr (by simp)⟩
    rw [afterLastMark_append absent, List.append_assoc, List.singleton_append]
  · exact ⟨[], by rw [afterLastMark_eq_self marked, List.nil_append], .inl rfl⟩

theorem snd_splitSheet (chars : List Char) : (splitSheet chars).2 = afterLastMark chars := by
  by_cases marked : '!' ∈ chars
  · obtain ⟨before, after, rfl, absent⟩ := exists_last_mark marked
    rw [splitSheet, splitLast?_append absent, afterLastMark_append absent]
  · have turned : splitFirst? '!' chars.reverse = none :=
      splitFirst?_eq_none fun member => marked (List.mem_reverse.mp member)
    rw [splitSheet, splitLast?, turned, afterLastMark_eq_self marked]
    rfl

end LastMark

/-! ## The form of a reference -/

/-- An address, or two of them with a colon between them. -/
structure CellsText where
  first : AddressText
  last : Option AddressText

namespace CellsText

def chars (t : CellsText) : List Char :=
  t.first.chars ++ t.last.elim [] fun a => ':' :: a.chars

/-- The address of the other corner, which is the same one for a single cell. -/
def otherCorner (t : CellsText) : AddressText :=
  t.last.getD t.first

end CellsText

theorem splitAtChar_eq_splitOn (separator : Char) (chars : List Char) :
    splitAtChar separator chars = chars.splitOn separator := by
  induction chars with
  | nil => rfl
  | cons c rest ih =>
    obtain ⟨piece, pieces, shape⟩ :=
      List.exists_cons_of_ne_nil (List.splitOn_ne_nil separator rest)
    rw [splitAtChar, List.splitOn_cons_eq_if_modifyHead, ih, shape]
    by_cases same : c = separator <;> simp [same]

section Form

variable {chars : List Char} {token : String}

/-- Letters and digits without a rest are an address. -/
theorem hasAddressShape_iff : hasAddressShape chars ↔ ∃ a : AddressText, chars = a.chars := by
  constructor
  · intro shape
    rcases parts : splitAddress chars with ⟨letters, digits, rest⟩
    simp only [hasAddressShape, parts, Bool.and_eq_true, decide_eq_true_eq] at shape
    obtain ⟨⟨lettered, digited⟩, rfl⟩ := shape
    obtain ⟨a, whole, -, -⟩ := exists_addressText lettered digited parts
    exact ⟨a, whole.symm⟩
  · rintro ⟨a, rfl⟩
    simp [hasAddressShape, a.splitAddress_chars, a.letters_ne_nil, a.digits_ne_nil]

theorem AddressText.not_mem_colon (a : AddressText) : ':' ∉ a.chars :=
  fun member => (ne_of_mem_chars member).2 rfl

/-- The cells of a reference are cut at a colon into one or two addresses. -/
theorem splitAtChar_cells_iff :
    (match splitAtChar ':' chars with
      | [cell] => hasAddressShape cell
      | [first, last] => hasAddressShape first && hasAddressShape last
      | _ => false) = true ↔ ∃ t : CellsText, chars = t.chars := by
  have joined : List.intercalate [':'] (chars.splitOn ':') = chars := List.intercalate_splitOn ':'
  rw [splitAtChar_eq_splitOn]
  constructor
  · intro shape
    split at shape
    · rename_i cell pieces
      rw [pieces, List.intercalate_singleton] at joined
      obtain ⟨a, rfl⟩ := hasAddressShape_iff.mp shape
      exact ⟨⟨a, none⟩, by rw [CellsText.chars, Option.elim_none, List.append_nil, joined]⟩
    · rename_i first last pieces
      rw [Bool.and_eq_true, hasAddressShape_iff, hasAddressShape_iff] at shape
      obtain ⟨⟨a, rfl⟩, b, rfl⟩ := shape
      rw [pieces] at joined
      refine ⟨⟨a, some b⟩, joined.symm.trans ?_⟩
      rw [List.intercalate_cons_cons, List.intercalate_singleton]
      simp [CellsText.chars]
    · cases shape
  · rintro ⟨⟨a, last⟩, rfl⟩
    cases last with
    | none =>
      rw [CellsText.chars, Option.elim_none, List.append_nil,
        List.splitOn_eq_singleton a.not_mem_colon]
      exact hasAddressShape_iff.mpr ⟨a, rfl⟩
    | some b =>
      rw [CellsText.chars, Option.elim_some,
        List.splitOn_append_cons_self_of_not_mem a.not_mem_colon,
        List.splitOn_eq_singleton b.not_mem_colon]
      simp only [Bool.and_eq_true, hasAddressShape_iff]
      exact ⟨⟨a, rfl⟩, b, rfl⟩

/-- A token has the form of a reference if an address or two stand after its last exclamation mark,
and the name of a sheet before it, if there is one, is not empty. -/
theorem looksLikeReference_iff :
    looksLikeReference token ↔ (splitSheet (trimBlanks token.toList)).1 ≠ some [] ∧
      ∃ t : CellsText, afterLastMark (trimBlanks token.toList) = t.chars := by
  rw [← snd_splitSheet, looksLikeReference, Bool.and_eq_true, decide_eq_true_eq]
  exact and_congr Iff.rfl splitAtChar_cells_iff

end Form

/-! ## The characters of the cells -/

namespace CellsText

variable {t : CellsText} {c : Char}

/-- The cells begin with a dollar sign or a letter. -/
theorem exists_head? (t : CellsText) : ∃ c rest, t.chars = c :: rest ∧ (c = '$' ∨ c.isAlpha) := by
  obtain ⟨letter, letters, shape⟩ := List.exists_cons_of_ne_nil t.first.letters_ne_nil
  have alphabetic : letter.isAlpha := t.first.alphabetic letter (shape ▸ List.mem_cons_self)
  rw [chars, AddressText.chars, shape]
  cases t.first.columnAnchored with
  | true => exact ⟨'$', _, rfl, .inl rfl⟩
  | false => exact ⟨letter, _, rfl, .inr alphabetic⟩

end CellsText

/-- An address ends in a digit. -/
theorem AddressText.exists_getLast? (a : AddressText) :
    ∃ c, a.chars.getLast? = some c ∧ c.isDigit := by
  refine ⟨a.digits.getLast a.digits_ne_nil, ?_, a.decimal _ (List.getLast_mem _)⟩
  simp only [chars, List.getLast?_append, List.getLast?_eq_some_getLast a.digits_ne_nil,
    Option.some_or]

/-- The cells end in a digit. -/
theorem CellsText.exists_getLast? (t : CellsText) : ∃ c, t.chars.getLast? = some c ∧ c.isDigit := by
  rcases t with ⟨a, _ | b⟩
  · rw [chars, Option.elim_none, List.append_nil]
    exact a.exists_getLast?
  · obtain ⟨c, last, digit⟩ := b.exists_getLast?
    refine ⟨c, ?_, digit⟩
    rw [chars, Option.elim_some, List.getLast?_append, List.getLast?_cons, last]
    rfl

/-! ## Reading the cells -/

/-- Whether cells are addresses of no position because their column or row is not in the sheet. -/
def AddressError.IsOutOfRange (e : AddressError) : Prop :=
  e = .columnOutOfRange ∨ e = .rowOutOfRange

/-- An address has a position, or its column or row is not in the sheet. -/
theorem AddressText.ofAddress?_cases (a : AddressText) :
    (∃ p, Position.ofAddress? a.chars = .ok p) ∨
      ∃ e : AddressError, e.IsOutOfRange ∧ Position.ofAddress? a.chars = .error e := by
  rw [Position.ofAddress?, a.trimBlanks_chars, a.splitAddress_chars]
  simp only [a.letters_ne_nil, a.digits_ne_nil, if_false, ne_eq, not_true_eq_false, or_self]
  split
  · exact .inr ⟨_, .inl rfl, rfl⟩
  split
  · exact .inr ⟨_, .inr rfl, rfl⟩
  split
  · exact .inr ⟨_, .inl rfl, rfl⟩
  split
  · exact .inr ⟨_, .inr rfl, rfl⟩
  · exact .inl ⟨_, rfl⟩

/-- The two parts around the first colon, or twice the whole text if there is none. -/
def cornerTexts (cells : List Char) : List Char × List Char :=
  (splitFirst? ':' cells).getD (cells, cells)

section Reading

variable {token : String} {t : CellsText} {r : RangeAddress}

/-- A token is read through the corners that its cells are cut into. -/
theorem RangeAddress.ofText?_of_cut {first last : List Char}
    (named : (splitSheet (trimBlanks token.toList)).1 ≠ some [])
    (cut : cornerTexts (afterLastMark (trimBlanks token.toList)) = (first, last)) :
    ofText? token =
      (Position.ofAddress? first).bind fun p => (Position.ofAddress? last).map fun q =>
        ⟨(splitSheet (trimBlanks token.toList)).1.map String.ofList, .between p q⟩ := by
  rw [cornerTexts, ← snd_splitSheet] at cut
  simp only [ofText?, if_neg named, cut]
  cases Position.ofAddress? first with
  | error e => rfl
  | ok p => cases Position.ofAddress? last <;> rfl

/-- Addresses are cut into corners at the colon between them. -/
theorem CellsText.cornerTexts_chars (t : CellsText) :
    cornerTexts t.chars = (t.first.chars, t.otherCorner.chars) := by
  rcases t with ⟨a, _ | b⟩
  · rw [cornerTexts, chars, Option.elim_none, List.append_nil, splitFirst?_eq_none a.not_mem_colon,
      Option.getD_none]
    rfl
  · rw [cornerTexts, chars, Option.elim_some, splitFirst?_append a.not_mem_colon,
      Option.getD_some]
    rfl

/-- Cells of the form of a reference are read, or one of their addresses is out of range. -/
theorem CellsText.ofText?_cases (named : (splitSheet (trimBlanks token.toList)).1 ≠ some [])
    (cells : afterLastMark (trimBlanks token.toList) = t.chars) :
    (∃ r, RangeAddress.ofText? token = .ok r) ∨
      ∃ e : AddressError, e.IsOutOfRange ∧ RangeAddress.ofText? token = .error e := by
  rw [RangeAddress.ofText?_of_cut named (cells ▸ t.cornerTexts_chars)]
  rcases t.first.ofAddress?_cases with ⟨p, first⟩ | ⟨e, outside, first⟩
  · rw [first]
    rcases t.otherCorner.ofAddress?_cases with ⟨q, last⟩ | ⟨e, outside, last⟩
    · exact .inl ⟨_, by rw [last]; rfl⟩
    · exact .inr ⟨e, outside, by rw [last]; rfl⟩
  · exact .inr ⟨e, outside, by rw [first]; rfl⟩

/-- A text without blanks that is read as a position is an address. -/
theorem exists_chars_of_ofAddress? {chars : List Char} {p : Position}
    (read : Position.ofAddress? chars = .ok p) (visible : ∀ c ∈ chars, ¬ isBlank c) :
    ∃ a : AddressText, chars = a.chars := by
  obtain ⟨a, trimmed, -, -⟩ := exists_of_ofAddress? read
  rw [trimBlanks_of_forall visible] at trimmed
  exact ⟨a, trimmed⟩

/-- A token that is read has the form of a reference if there is no blank among its cells. -/
theorem exists_cellsText (read : RangeAddress.ofText? token = .ok r)
    (visible : ∀ c ∈ afterLastMark (trimBlanks token.toList), ¬ isBlank c) :
    (splitSheet (trimBlanks token.toList)).1 ≠ some [] ∧
      ∃ t : CellsText, afterLastMark (trimBlanks token.toList) = t.chars := by
  have named : (splitSheet (trimBlanks token.toList)).1 ≠ some [] := by
    intro unnamed
    simp only [RangeAddress.ofText?, if_pos unnamed] at read
    cases read
  refine ⟨named, ?_⟩
  have corners : ∀ {first last : List Char},
      cornerTexts (afterLastMark (trimBlanks token.toList)) = (first, last) →
      (∃ p, Position.ofAddress? first = .ok p) ∧ ∃ q, Position.ofAddress? last = .ok q := by
    intro first last cut
    rw [RangeAddress.ofText?_of_cut named cut] at read
    cases start : Position.ofAddress? first with
    | error e =>
      rw [start] at read
      cases read
    | ok p =>
      cases stop : Position.ofAddress? last with
      | error e =>
        rw [start, stop] at read
        cases read
      | ok q => exact ⟨⟨p, rfl⟩, q, rfl⟩
  by_cases colon : ':' ∈ afterLastMark (trimBlanks token.toList)
  · obtain ⟨first, last, shape, absent⟩ := List.eq_append_cons_of_mem colon
    rw [shape] at corners visible ⊢
    obtain ⟨⟨p, start⟩, q, stop⟩ := corners
      (by rw [cornerTexts, splitFirst?_append absent, Option.getD_some])
    obtain ⟨a, rfl⟩ := exists_chars_of_ofAddress? start fun c member =>
      visible c (List.mem_append_left _ member)
    obtain ⟨b, rfl⟩ := exists_chars_of_ofAddress? stop fun c member =>
      visible c (List.mem_append_right _ (List.mem_cons_of_mem _ member))
    exact ⟨⟨a, some b⟩, rfl⟩
  · obtain ⟨⟨p, start⟩, -⟩ := corners
      (by rw [cornerTexts, splitFirst?_eq_none colon, Option.getD_none])
    obtain ⟨a, whole⟩ := exists_chars_of_ofAddress? start visible
    exact ⟨⟨a, none⟩, by rw [whole, CellsText.chars, Option.elim_none, List.append_nil]⟩

end Reading

end Spreadsheet
