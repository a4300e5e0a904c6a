import Spreadsheet.Proofs.Addresses

/-!
# Written references

A reference that is written out is read back. The name of a sheet stands between apostrophes, with
its own apostrophes doubled, and may hold anything: it ends at the last exclamation mark, since no
address has one (`splitSheet_sheetReference`). The letters of a column are its digits to the base of
twenty-six (`foldl_columnLetters`), in either case.

The cells may be any addresses in the sheet (`AddressText.InSheet.ofText?_range`), and those that
are written for positions are addresses of these (`Position.Spelling.position_address`).
-/

namespace Spreadsheet

/-! ## The characters of an address -/

namespace AddressText

variable {a : AddressText} {c : Char}

theorem mem_chars (member : c ∈ a.chars) : c = '$' ∨ c.isAlpha ∨ c.isDigit := by
  have anchor : ∀ {anchored}, c ∈ anchorChars anchored → c = '$' := by
    rintro ⟨⟩ written
    · cases written
    · exact List.mem_singleton.mp written
  simp only [chars, List.mem_append] at member
  rcases member with sign | letter | sign | digit
  · exact .inl (anchor sign)
  · exact .inr (.inl (a.alphabetic c letter))
  · exact .inl (anchor sign)
  · exact .inr (.inr (a.decimal c digit))

theorem ne_of_mem_chars (member : c ∈ a.chars) : c ≠ '!' ∧ c ≠ ':' := by
  constructor
  · rintro rfl
    exact absurd (mem_chars member) (by decide)
  · rintro rfl
    exact absurd (mem_chars member) (by decide)

theorem not_isBlank_of_mem (member : c ∈ a.chars) : ¬ isBlank c := by
  rcases mem_chars member with rfl | letter | digit
  · decide
  · rw [isAlpha_iff_toNat] at letter
    exact not_isBlank_of_printable (by omega) (by omega)
  · rw [isDigit_iff_toNat] at digit
    exact not_isBlank_of_printable (by omega) (by omega)

theorem trimBlanks_chars (a : AddressText) : trimBlanks a.chars = a.chars :=
  trimBlanks_of_forall fun _ member => not_isBlank_of_mem member

end AddressText

/-! ## The letters of a column -/

/-- The capital letter at a place in the alphabet, counted from zero. -/
def capitalLetter (i : ℕ) : Char :=
  .ofNat ('A'.toNat + i)

/-- The letters of a column, counted from one: its digits to the base of twenty-six, of which the
least is one. -/
def columnLetters (n : ℕ) : List Char :=
  if n = 0 then []
  else columnLetters ((n - 1) / 26) ++ [capitalLetter ((n - 1) % 26)]
termination_by n
decreasing_by omega

section Letters

variable {c : Char} {letters : List Char} {n : ℕ}

theorem isUpper_of_mem_columnLetters (member : c ∈ columnLetters n) : c.isUpper := by
  have capital : ∀ i < 26, (capitalLetter i).isUpper := by decide
  fun_induction columnLetters n with
  | case1 => cases member
  | case2 n nonzero ih =>
    rcases List.mem_append.mp member with earlier | last
    · exact ih earlier
    · rw [List.mem_singleton.mp last]
      exact capital _ (Nat.mod_lt _ (by decide))

theorem columnLetters_ne_nil (nonzero : n ≠ 0) : columnLetters n ≠ [] := by
  rw [columnLetters, if_neg nonzero]
  exact List.append_ne_nil_of_right_ne_nil _ (List.cons_ne_nil _ _)

/-- The letters of a column, taken up from left to right, make its number. -/
theorem foldl_columnLetters (n : ℕ) :
    (columnLetters n).foldl (fun n c => 26 * n + (c.toNat - 'A'.toNat + 1)) 0 = n := by
  have number : ∀ i < 26, (capitalLetter i).toNat - 'A'.toNat + 1 = i + 1 := by decide
  fun_induction columnLetters n with
  | case1 => rfl
  | case2 n nonzero ih =>
    rw [List.foldl_append, ih, List.foldl_cons, List.foldl_nil,
      number _ (Nat.mod_lt _ (by decide))]
    -- The remainder counts letters from zero, and the one taken from `n` makes up for it.
    omega

theorem toUpper_of_not_isLower (other : ¬ c.isLower) : c.toUpper = c := by
  rw [isLower_iff_toNat] at other
  exact dif_neg other

theorem isAlpha_of_toUpper (capital : c.toUpper.isUpper) : c.isAlpha := by
  rw [isAlpha_iff_toNat]
  by_cases small : c.isLower
  · exact .inr (isLower_iff_toNat.mp small)
  · rw [toUpper_of_not_isLower small] at capital
    exact .inl (isUpper_iff_toNat.mp capital)

theorem toUpper_of_isUpper (capital : c.isUpper) : c.toUpper = c := by
  rw [isUpper_iff_toNat] at capital
  refine toUpper_of_not_isLower ?_
  rw [isLower_iff_toNat]
  omega

theorem map_toUpper_columnLetters (n : ℕ) : (columnLetters n).map Char.toUpper = columnLetters n :=
  (List.map_congr_left fun _ member =>
    toUpper_of_isUpper (isUpper_of_mem_columnLetters member)).trans (List.map_id _)

/-- Letters of either case are read as the number of the column that they are for. -/
theorem columnNumber_of_spelled (spelled : letters.map Char.toUpper = columnLetters n) :
    columnNumber letters = n := by
  have capitals : (letters.map Char.toUpper).foldl
      (fun n c => 26 * n + (c.toNat - 'A'.toNat + 1)) 0 = columnNumber letters :=
    List.foldl_map
  rw [← capitals, spelled, foldl_columnLetters]

theorem isAlpha_of_spelled (spelled : letters.map Char.toUpper = columnLetters n)
    (member : c ∈ letters) : c.isAlpha := by
  have upper : c.toUpper ∈ columnLetters n := spelled ▸ List.mem_map_of_mem member
  exact isAlpha_of_toUpper (isUpper_of_mem_columnLetters upper)

end Letters

/-! ## Positions written out -/

/-- Whether a sheet has the position. -/
def Position.InSheet (p : Position) : Prop :=
  p.row < 1048576 ∧ p.column < 16384

/-- A way to write a position: with letters of either case, and with dollar signs or without. -/
structure Position.Spelling (p : Position) where
  columnAnchored : Bool
  letters : List Char
  spelled : letters.map Char.toUpper = columnLetters (p.column + 1)
  rowAnchored : Bool

namespace Position.Spelling

variable {p : Position}

/-- Capital letters will do. -/
instance : Inhabited p.Spelling :=
  ⟨⟨false, columnLetters (p.column + 1), map_toUpper_columnLetters _, false⟩⟩

/-- The row is written in decimal, counted from one. -/
def chars (s : p.Spelling) : List Char :=
  anchorChars s.columnAnchored ++
    (s.letters ++ (anchorChars s.rowAnchored ++ Nat.toDigits 10 (p.row + 1)))

/-- What is written is an address. -/
def address (s : p.Spelling) : AddressText where
  columnAnchored := s.columnAnchored
  letters := s.letters
  rowAnchored := s.rowAnchored
  digits := Nat.toDigits 10 (p.row + 1)
  letters_ne_nil empty :=
    columnLetters_ne_nil (Nat.succ_ne_zero p.column) (by rw [← s.spelled, empty, List.map_nil])
  alphabetic _ member := isAlpha_of_spelled s.spelled member
  digits_ne_nil := Nat.toDigits_ne_nil
  decimal _ member := isDigit_of_mem_toDigits member

theorem chars_address (s : p.Spelling) : s.address.chars = s.chars :=
  rfl

theorem column_address (s : p.Spelling) : s.address.column = p.column + 1 := by
  rw [← AddressText.columnNumber_letters]
  exact columnNumber_of_spelled s.spelled

theorem row_address (s : p.Spelling) : s.address.row = p.row + 1 := by
  rw [← AddressText.natOfDigits_digits]
  exact natOfDigits_toDigits (p.row + 1)

theorem position_address (s : p.Spelling) : s.address.position = p := by
  rw [AddressText.position, row_address, column_address]
  rfl

theorem inSheet_address (s : p.Spelling) (inSheet : p.InSheet) : s.address.InSheet := by
  rw [AddressText.InSheet, row_address, column_address]
  unfold InSheet at inSheet
  omega

end Position.Spelling

/-! ## References -/

/-- Cells of a sheet, whose name is written between apostrophes with its own apostrophes doubled. -/
def sheetReference (sheet : String) (cells : List Char) : String :=
  .ofList ('\'' :: (doubleQuotes '\'' sheet.toList ++ ['\'']) ++ '!' :: cells)

section References

variable {sheet : String} {cells first last : List Char} {p q : Position}

/-- The name of a sheet ends at the last exclamation mark, and is read without its quotes. -/
theorem splitSheet_sheetReference (unmarked : '!' ∉ cells) :
    splitSheet (sheetReference sheet cells).toList = (some sheet.toList, cells) := by
  rw [splitSheet, sheetReference, String.toList_ofList, splitLast?_append unmarked]
  simp only [unquote?_doubleQuotes, Option.getD_some]

/-- No blanks are taken away from a reference, since an apostrophe comes first. -/
theorem trimBlanks_sheetReference (visible : ∀ c ∈ cells, ¬ isBlank c) :
    trimBlanks (sheetReference sheet cells).toList = (sheetReference sheet cells).toList := by
  rw [sheetReference, String.toList_ofList]
  refine trimBlanks_eq_self ?_ ?_
  · rintro c ⟨⟩
    decide
  · intro c final
    have inside : c ∈ '!' :: cells := by
      rw [List.getLast?_append, List.getLast?_eq_some_getLast (List.cons_ne_nil '!' cells),
        Option.some_or] at final
      exact List.mem_of_getLast? (List.getLast?_eq_some_getLast _ ▸ final)
    rcases List.mem_cons.mp inside with mark | later
    · rw [mark]
      decide
    · exact visible c later

/-- A reference is read as its sheet and the range between two corners, if the cells are cut into
texts of these. -/
theorem RangeAddress.ofText?_of_corners (named : sheet ≠ "") (visible : ∀ c ∈ cells, ¬ isBlank c)
    (unmarked : '!' ∉ cells) (cut : (splitFirst? ':' cells).getD (cells, cells) = (first, last))
    (start : Position.ofAddress? first = .ok p) (stop : Position.ofAddress? last = .ok q) :
    ofText? (sheetReference sheet cells) = .ok ⟨some sheet, .between p q⟩ := by
  have nonempty : some sheet.toList ≠ some [] := fun same =>
    named (String.toList_eq_nil_iff.mp (Option.some.inj same))
  rw [ofText?, trimBlanks_sheetReference visible, splitSheet_sheetReference unmarked]
  simp only [if_neg nonempty, cut, start, stop]
  rw [Option.map_some, String.ofList_toList]
  rfl

end References

namespace AddressText.InSheet

variable {sheet : String} {a b : AddressText}

/-- A cell of a sheet is read from the sheet's name and any address of the cell. -/
theorem ofText?_cell (named : sheet ≠ "") (inSheet : a.InSheet) :
    RangeAddress.ofText? (sheetReference sheet a.chars) =
      .ok ⟨some sheet, .between a.position a.position⟩ := by
  have cut : (splitFirst? ':' a.chars).getD (a.chars, a.chars) = (a.chars, a.chars) := by
    rw [splitFirst?_eq_none fun member => (ne_of_mem_chars member).2 rfl, Option.getD_none]
  have read : Position.ofAddress? a.chars = .ok a.position := inSheet.ofAddress? a.trimBlanks_chars
  exact RangeAddress.ofText?_of_corners named (fun _ member => not_isBlank_of_mem member)
    (fun member => (ne_of_mem_chars member).1 rfl) cut read read

/-- A range of a sheet is read from the sheet's name and any addresses of two corners. -/
theorem ofText?_range (named : sheet ≠ "") (first : a.InSheet) (last : b.InSheet) :
    RangeAddress.ofText? (sheetReference sheet (a.chars ++ ':' :: b.chars)) =
      .ok ⟨some sheet, .between a.position b.position⟩ := by
  have cut : (splitFirst? ':' (a.chars ++ ':' :: b.chars)).getD
      (a.chars ++ ':' :: b.chars, a.chars ++ ':' :: b.chars) = (a.chars, b.chars) := by
    rw [splitFirst?_append fun member => (ne_of_mem_chars member).2 rfl, Option.getD_some]
  refine RangeAddress.ofText?_of_corners named ?_ ?_ cut (first.ofAddress? a.trimBlanks_chars)
    (last.ofAddress? b.trimBlanks_chars)
  · intro c member
    rcases List.mem_append.mp member with before | rest
    · exact not_isBlank_of_mem before
    rcases List.mem_cons.mp rest with rfl | after
    · decide
    · exact not_isBlank_of_mem after
  · intro member
    rcases List.mem_append.mp member with before | rest
    · exact (ne_of_mem_chars before).1 rfl
    rcases List.mem_cons.mp rest with mark | after
    · exact absurd mark (by decide)
    · exact (ne_of_mem_chars after).1 rfl

end AddressText.InSheet

/-- A reference that is written for a sheet of any name and for positions in it is read as that
sheet with the cell, or with the range between the two corners. -/
theorem RangeAddress.ofText?_sheetReference {sheet : String} (named : sheet ≠ "") {p q : Position}
    (first : p.InSheet) (last : q.InSheet) (a : p.Spelling) (b : q.Spelling) :
    ofText? (sheetReference sheet a.chars) = .ok ⟨some sheet, .between p p⟩ ∧
      ofText? (sheetReference sheet (a.chars ++ ':' :: b.chars)) =
        .ok ⟨some sheet, .between p q⟩ := by
  have cell := (a.inSheet_address first).ofText?_cell named
  have range := (a.inSheet_address first).ofText?_range named (b.inSheet_address last)
  rw [a.chars_address, a.position_address] at cell range
  rw [b.chars_address, b.position_address] at range
  exact ⟨cell, range⟩

/-- The name may itself look like a reference, and the corners may stand in any order. -/
theorem RangeAddress.ofText?_sheetReference_like_reference :
    ofText? "'''It''''s $A$1:B2! '''!$xFd1048576" =
        .ok ⟨some "'It''s $A$1:B2! '", ⟨1048575, 16383, 1048575, 16383⟩⟩ ∧
      ofText? "'''It''''s $A$1:B2! '''!$xFd1048576:aA$1" =
        .ok ⟨some "'It''s $A$1:B2! '", ⟨0, 26, 1048575, 16383⟩⟩ := by
  have far : "xFd".toList.map Char.toUpper = columnLetters 16384 := by
    simp [columnLetters]
    decide
  have near : "aA".toList.map Char.toUpper = columnLetters 27 := by
    simp [columnLetters]
    decide
  let a : Position.Spelling ⟨1048575, 16383⟩ := ⟨true, "xFd".toList, far, false⟩
  let b : Position.Spelling ⟨0, 26⟩ := ⟨false, "aA".toList, near, true⟩
  have cell : sheetReference "'It''s $A$1:B2! '" a.chars =
    "'''It''''s $A$1:B2! '''!$xFd1048576" := rfl
  have range : sheetReference "'It''s $A$1:B2! '" (a.chars ++ ':' :: b.chars) =
    "'''It''''s $A$1:B2! '''!$xFd1048576:aA$1" := rfl
  rw [← cell, ← range]
  exact ofText?_sheetReference (by decide) ⟨by decide, by decide⟩ ⟨by decide, by decide⟩ a b

end Spreadsheet
