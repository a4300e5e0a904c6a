import Mathlib.Data.List.Induction
import Mathlib.Data.List.TakeWhile
import Mathlib.Data.Nat.Digits.Defs
import Spreadsheet.Formula.Address
import Spreadsheet.Proofs.AsciiText

/-!
# Addresses

Which texts denote a position. An `AddressText` is a text in A1 notation: letters for a column and
digits for a row, each after a dollar sign that may be left out. These are taken apart as they are
put together (`AddressText.splitAddress_chars`, `exists_addressText`), so that a text denotes a
position just if, between the blanks around it, it is one of them whose column and row are in the
sheet (`Position.ofAddress?_eq_ok_iff`).

Letters are digits from one to twenty-six, so there is no column zero to be excluded
(`AddressText.column_pos`), and digits may begin with zeros. Runs of either may be of any length:
counted in words of 64 bits, they are given up as soon as they leave a word, and until then the word
is what has been read (`countDigits?_eq_some_iff`). This never shows, since such numbers are far
outside the sheet (`Position.ofWords?_eq_ofAddress?`).
-/

namespace Spreadsheet

/-! ## A1 notation -/

/-- A dollar sign, if there is one. -/
def anchorChars (anchored : Bool) : List Char :=
  if anchored then ['$'] else []

/-- The place of a letter in the alphabet, counted from one. -/
def letterNumber (c : Char) : ℕ :=
  if c.isUpper then c.toNat - 'A'.toNat + 1 else c.toNat - 'a'.toNat + 1

/-- Letters of either case and digits, each after a dollar sign that may be left out. -/
structure AddressText where
  columnAnchored : Bool
  letters : List Char
  rowAnchored : Bool
  digits : List Char
  letters_ne_nil : letters ≠ []
  alphabetic : ∀ c ∈ letters, c.isAlpha
  digits_ne_nil : digits ≠ []
  decimal : ∀ c ∈ digits, c.isDigit

namespace AddressText

def chars (a : AddressText) : List Char :=
  anchorChars a.columnAnchored ++ (a.letters ++ (anchorChars a.rowAnchored ++ a.digits))

/-- The number of the column, counted from one: a number to the base of twenty-six with letters for
its digits, of which none is zero. -/
def column (a : AddressText) : ℕ :=
  Nat.ofDigits 26 (a.letters.reverse.map letterNumber)

/-- The number of the row, counted from one. -/
def row (a : AddressText) : ℕ :=
  Nat.ofDigits 10 (a.digits.reverse.map digitValue)

/-- Whether there are a column and a row of these numbers. -/
def InSheet (a : AddressText) : Prop :=
  (1 ≤ a.column ∧ a.column ≤ 16384) ∧ 1 ≤ a.row ∧ a.row ≤ 1048576

def position (a : AddressText) : Position :=
  ⟨a.row - 1, a.column - 1⟩

end AddressText

/-! ## Letters and digits -/

section Characters

variable {c : Char}

theorem isUpper_iff_toNat : c.isUpper ↔ 65 ≤ c.toNat ∧ c.toNat ≤ 90 :=
  decide_eq_true_iff

theorem isLower_iff_toNat : c.isLower ↔ 97 ≤ c.toNat ∧ c.toNat ≤ 122 :=
  Bool.and_eq_true_iff.trans (and_congr decide_eq_true_iff decide_eq_true_iff)

theorem isAlpha_iff_toNat :
    c.isAlpha ↔ (65 ≤ c.toNat ∧ c.toNat ≤ 90) ∨ (97 ≤ c.toNat ∧ c.toNat ≤ 122) :=
  Bool.or_eq_true_iff.trans (or_congr isUpper_iff_toNat isLower_iff_toNat)

theorem isDigit_iff_toNat : c.isDigit ↔ 48 ≤ c.toNat ∧ c.toNat ≤ 57 :=
  Char.isDigit_iff_toNat

theorem not_isAlpha_of_isDigit (digit : c.isDigit) : ¬ c.isAlpha := by
  rw [isDigit_iff_toNat] at digit
  rw [isAlpha_iff_toNat]
  omega

theorem ne_dollar_of_alphanumeric (plain : c.isAlpha ∨ c.isDigit) : c ≠ '$' := by
  rcases plain with letter | digit
  · rintro rfl
    exact absurd letter (by decide)
  · rintro rfl
    exact absurd digit (by decide)

/-- The number of a letter is that of its capital form. -/
theorem toUpper_eq_letterNumber (letter : c.isAlpha) :
    c.toUpper.toNat - 'A'.toNat + 1 = letterNumber c := by
  have ascii : c.toNat < 128 := by
    rw [isAlpha_iff_toNat] at letter
    omega
  exact forall_ascii (P := fun c => c.isAlpha → c.toUpper.toNat - 'A'.toNat + 1 = letterNumber c)
    (by decide +kernel) ascii letter

end Characters

/-! ## The parts of an address -/

section Parts

variable {chars : List Char} {a : AddressText}

theorem exists_anchorChars (chars : List Char) :
    ∃ anchored, anchorChars anchored ++ dropAnchor chars = chars := by
  unfold dropAnchor
  split
  · exact ⟨true, rfl⟩
  · exact ⟨false, rfl⟩

theorem dropAnchor_anchorChars (plain : chars.head? ≠ some '$') (anchored : Bool) :
    dropAnchor (anchorChars anchored ++ chars) = chars := by
  cases anchored with
  | true => rfl
  | false =>
    unfold anchorChars
    rw [if_neg Bool.false_ne_true, List.nil_append]
    unfold dropAnchor
    split
    · exact absurd rfl plain
    · rfl

namespace AddressText

/-- An address is taken apart into its letters and its digits. -/
theorem splitAddress_chars (a : AddressText) :
    splitAddress a.chars = (a.letters, a.digits, []) := by
  rcases List.exists_cons_of_ne_nil a.letters_ne_nil with ⟨letter, letters, shape⟩
  rcases List.exists_cons_of_ne_nil a.digits_ne_nil with ⟨digit, digits, shape'⟩
  have first : letter.isAlpha := a.alphabetic letter (shape ▸ List.mem_cons_self)
  have later : digit.isDigit := a.decimal digit (shape' ▸ List.mem_cons_self)
  have body : dropAnchor a.chars = a.letters ++ (anchorChars a.rowAnchored ++ a.digits) := by
    refine dropAnchor_anchorChars ?_ _
    rw [shape, List.cons_append, List.head?_cons]
    exact fun same => ne_dollar_of_alphanumeric (.inl first) (Option.some.inj same)
  have after : dropAnchor (anchorChars a.rowAnchored ++ a.digits) = a.digits := by
    refine dropAnchor_anchorChars ?_ _
    rw [shape', List.head?_cons]
    exact fun same => ne_dollar_of_alphanumeric (.inr later) (Option.some.inj same)
  have outside : ∀ c ∈ (anchorChars a.rowAnchored ++ a.digits).head?, ¬ c.isAlpha := by
    rw [shape']
    cases a.rowAnchored with
    | true =>
      rintro c ⟨⟩
      decide
    | false =>
      rintro c ⟨⟩
      exact not_isAlpha_of_isDigit later
  rcases takeWhile_dropWhile_append a.alphabetic outside with ⟨letters_eq, rest_eq⟩
  have digits_eq : a.digits.takeWhile Char.isDigit = a.digits :=
    List.takeWhile_eq_self_iff.mpr a.decimal
  have nothing : a.digits.dropWhile Char.isDigit = [] := List.dropWhile_eq_nil_iff.mpr a.decimal
  simp only [splitAddress, body, letters_eq, rest_eq, after, digits_eq, nothing]

end AddressText

/-- What is taken apart into letters and digits without a rest is an address. -/
theorem exists_addressText {letters digits : List Char} (letters_ne_nil : letters ≠ [])
    (digits_ne_nil : digits ≠ []) (parts : splitAddress chars = (letters, digits, [])) :
    ∃ a : AddressText, a.chars = chars ∧ a.letters = letters ∧ a.digits = digits := by
  simp only [splitAddress, Prod.mk.injEq] at parts
  rcases parts with ⟨rfl, rfl, nothing⟩
  rcases exists_anchorChars chars with ⟨columnAnchored, column⟩
  rcases exists_anchorChars ((dropAnchor chars).dropWhile Char.isAlpha) with ⟨rowAnchored, row⟩
  refine ⟨⟨columnAnchored, _, rowAnchored, _, letters_ne_nil, ?_, digits_ne_nil, ?_⟩, ?_, rfl, rfl⟩
  · exact List.all_eq_true.mp List.all_takeWhile
  · exact List.all_eq_true.mp List.all_takeWhile
  · have digits := List.takeWhile_append_dropWhile (p := Char.isDigit)
      (l := dropAnchor ((dropAnchor chars).dropWhile Char.isAlpha))
    rw [nothing, List.append_nil] at digits
    change anchorChars columnAnchored ++ (List.takeWhile Char.isAlpha (dropAnchor chars) ++
      (anchorChars rowAnchored ++ List.takeWhile Char.isDigit _)) = chars
    rw [digits, row, List.takeWhile_append_dropWhile, column]

end Parts

/-! ## Numbers -/

section Numbers

variable {base : ℕ} {value : Char → ℕ} {digits : List Char}

/-- Digits taken up from left to right make the number that they denote. -/
theorem foldl_eq_ofDigits (digits : List Char) :
    digits.foldl (fun n c => base * n + value c) 0 =
      Nat.ofDigits base (digits.reverse.map value) := by
  induction digits using List.reverseRecOn with
  | nil => rfl
  | append_singleton digits c ih =>
    rw [List.foldl_append, List.foldl_cons, List.foldl_nil, ih, List.reverse_append,
      List.reverse_singleton, List.singleton_append, List.map_cons, Nat.ofDigits_cons, Nat.add_comm]

theorem columnNumber_pos {letters : List Char} (letters_ne_nil : letters ≠ []) :
    1 ≤ columnNumber letters := by
  rcases List.eq_nil_or_concat letters with empty | ⟨first, c, shape⟩
  · exact absurd empty letters_ne_nil
  · rw [shape, List.concat_eq_append, columnNumber, List.foldl_append, List.foldl_cons,
      List.foldl_nil]
    omega

namespace AddressText

theorem columnNumber_letters (a : AddressText) : columnNumber a.letters = a.column := by
  have numbers : a.letters.reverse.map (fun c => c.toUpper.toNat - 'A'.toNat + 1) =
      a.letters.reverse.map letterNumber :=
    List.map_congr_left fun c member =>
      toUpper_eq_letterNumber (a.alphabetic c (List.mem_reverse.mp member))
  rw [columnNumber, foldl_eq_ofDigits, numbers, column]

theorem natOfDigits_digits (a : AddressText) : natOfDigits a.digits = a.row :=
  foldl_eq_ofDigits a.digits

/-- There is no column zero, since no letter is a digit zero. -/
theorem column_pos (a : AddressText) : 1 ≤ a.column := by
  rw [← a.columnNumber_letters]
  exact columnNumber_pos a.letters_ne_nil

end AddressText

end Numbers

/-! ## Reading an address -/

theorem ite_error_eq_ok {ε α : Type} {c : Prop} [Decidable c] {e : ε} {x : Except ε α} {a : α} :
    (if c then .error e else x) = .ok a ↔ ¬ c ∧ x = .ok a := by
  split
  · rename_i failed
    exact iff_of_false (fun same => nomatch same) fun both => both.1 failed
  · rename_i passed
    exact (and_iff_right passed).symm

section Reading

variable {chars : List Char} {p : Position}

/-- A position is read just from letters and digits without a rest, for a column and a row of the
sheet. -/
theorem Position.ofAddress?_eq_ok :
    ofAddress? chars = .ok p ↔
      ∃ letters digits, splitAddress (trimBlanks chars) = (letters, digits, []) ∧ letters ≠ [] ∧
        digits ≠ [] ∧ columnNumber letters ≤ sheetColumns ∧
        (natOfDigits digits ≠ 0 ∧ natOfDigits digits ≤ sheetRows) ∧
        ⟨natOfDigits digits - 1, columnNumber letters - 1⟩ = p := by
  rcases parts : splitAddress (trimBlanks chars) with ⟨letters, digits, rest⟩
  simp only [ofAddress?, parts, ite_error_eq_ok, not_or, not_lt, not_not, Except.ok.injEq]
  constructor
  · rintro ⟨lettered, -, -, ⟨digited, rfl⟩, column, row, same⟩
    exact ⟨letters, digits, rfl, lettered, digited, column, row, same⟩
  · rintro ⟨_, _, ⟨⟩, lettered, digited, column, row, same⟩
    exact ⟨lettered, column.trans (by decide), row.2.trans (by decide), ⟨digited, rfl⟩, column, row,
      same⟩

/-- An address in the sheet is read as its position. -/
theorem AddressText.InSheet.ofAddress? {a : AddressText} (inSheet : a.InSheet)
    (trimmed : trimBlanks chars = a.chars) : Position.ofAddress? chars = .ok a.position := by
  rw [Position.ofAddress?_eq_ok]
  refine ⟨a.letters, a.digits, ?_, a.letters_ne_nil, a.digits_ne_nil, ?_, ?_, ?_⟩
  · rw [trimmed, a.splitAddress_chars]
  · rw [a.columnNumber_letters]
    exact inSheet.1.2
  · rw [a.natOfDigits_digits]
    exact ⟨Nat.one_le_iff_ne_zero.mp inSheet.2.1, inSheet.2.2⟩
  · rw [a.natOfDigits_digits, a.columnNumber_letters, position]

/-- What is read as a position is an address in the sheet. -/
theorem exists_of_ofAddress? (read : Position.ofAddress? chars = .ok p) :
    ∃ a : AddressText, trimBlanks chars = a.chars ∧ a.InSheet ∧ p = a.position := by
  rw [Position.ofAddress?_eq_ok] at read
  rcases read with ⟨letters, digits, parts, lettered, digited, column, row, rfl⟩
  rcases exists_addressText lettered digited parts with ⟨a, whole, rfl, rfl⟩
  rw [a.columnNumber_letters] at column ⊢
  rw [a.natOfDigits_digits] at row ⊢
  exact ⟨a, whole.symm, ⟨⟨a.column_pos, column⟩, Nat.one_le_iff_ne_zero.mpr row.1, row.2⟩, rfl⟩

end Reading

/-! ## Words of 64 bits -/

/-- The product of two words, if it is a word. -/
def mulWords? (a b : UInt64) : Option UInt64 :=
  if a.toNat * b.toNat < 2 ^ 64 then some (a * b) else none

/-- The sum of two words, if it is a word. -/
def addWords? (a b : UInt64) : Option UInt64 :=
  if a.toNat + b.toNat < 2 ^ 64 then some (a + b) else none

/-- A number with one more digit at its end. -/
def countDigit? (base : UInt64) (value : Char → UInt64) (n : UInt64) (c : Char) :
    Option UInt64 := do
  addWords? (← mulWords? n base) (value c)

/-- The number that a run of digits denotes, taken up from left to right in a word. -/
def countDigits? (base : UInt64) (value : Char → UInt64) (digits : List Char) : Option UInt64 :=
  digits.foldlM (countDigit? base value) 0

def letterWord (c : Char) : UInt64 :=
  .ofNat (c.toUpper.toNat - 'A'.toNat + 1)

def digitWord (c : Char) : UInt64 :=
  .ofNat (digitValue c)

/-- The position that a text denotes, with all numbers in words. -/
def Position.ofWords? (chars : List Char) : Except AddressError Position :=
  let trimmed := trimBlanks chars
  let malformed := AddressError.malformed (.ofList trimmed)
  let (letters, digits, rest) := splitAddress trimmed
  if trimmed = [] then .error malformed
  else
    match countDigits? 26 letterWord letters with
    | none => .error .columnOutOfRange
    | some column =>
      if letters = [] then .error malformed
      else
        match countDigits? 10 digitWord digits with
        | none => .error .rowOutOfRange
        | some row =>
          if digits = [] ∨ rest ≠ [] then .error malformed
          else if column = 0 ∨ 16384 < column then .error .columnOutOfRange
          else if row = 0 ∨ 1048576 < row then .error .rowOutOfRange
          else .ok ⟨(row - 1).toNat, (column - 1).toNat⟩

section Words

variable {a b c base n : UInt64} {value : Char → UInt64} {digits : List Char}

theorem mulWords?_eq_some_iff : mulWords? a b = some c ↔ a.toNat * b.toNat = c.toNat := by
  unfold mulWords?
  split
  · rename_i fits
    rw [Option.some.injEq, ← UInt64.toNat_inj, UInt64.toNat_mul, Nat.mod_eq_of_lt fits]
  · rename_i large
    have bound := c.toNat_lt
    exact iff_of_false (fun same => nomatch same) (by omega)

theorem addWords?_eq_some_iff : addWords? a b = some c ↔ a.toNat + b.toNat = c.toNat := by
  unfold addWords?
  split
  · rename_i fits
    rw [Option.some.injEq, ← UInt64.toNat_inj, UInt64.toNat_add, Nat.mod_eq_of_lt fits]
  · rename_i large
    have bound := c.toNat_lt
    exact iff_of_false (fun same => nomatch same) (by omega)

/-- One more digit is taken up just if the number that it makes is a word. -/
theorem countDigit?_eq_some_iff {d : Char} :
    countDigit? base value n d = some c ↔ base.toNat * n.toNat + (value d).toNat = c.toNat := by
  simp only [countDigit?, Option.bind_eq_bind, Option.bind_eq_some_iff, mulWords?_eq_some_iff,
    addWords?_eq_some_iff, Nat.mul_comm base.toNat]
  constructor
  · rintro ⟨product, exact, sum⟩
    rw [exact, sum]
  · intro sum
    have fits : n.toNat * base.toNat < 2 ^ 64 := by
      have bound := c.toNat_lt
      omega
    refine ⟨.ofNat (n.toNat * base.toNat), ?_, ?_⟩
    · rw [UInt64.toNat_ofNat_of_lt' fits]
    · rw [UInt64.toNat_ofNat_of_lt' fits, sum]

/-- Digits only make a number larger. -/
theorem le_foldl_digits {base : ℕ} {value : Char → ℕ} (positive : 0 < base) (n : ℕ) :
    n ≤ digits.foldl (fun n c => base * n + value c) n := by
  induction digits generalizing n with
  | nil => exact le_rfl
  | cons d rest ih =>
    calc n ≤ base * n + value d := Nat.le_add_right_of_le (Nat.le_mul_of_pos_left n positive)
      _ ≤ _ := ih _

/-- A run of digits, of whatever length, is counted just if the number that it denotes is a word. So
at every character the word is the number so far, and it is given up where that leaves the words. -/
theorem countDigits?_eq_some_iff (positive : 0 < base.toNat) :
    countDigits? base value digits = some n ↔
      digits.foldl (fun n c => base.toNat * n + (value c).toNat) 0 = n.toNat := by
  have onward : ∀ start : UInt64, digits.foldlM (countDigit? base value) start = some n ↔
      digits.foldl (fun n c => base.toNat * n + (value c).toNat) start.toNat = n.toNat := by
    induction digits with
    | nil => exact fun start => Option.some_inj.trans UInt64.toNat_inj.symm
    | cons d rest ih =>
      intro start
      rw [List.foldlM_cons, List.foldl_cons]
      cases step : countDigit? base value start d with
      | some next =>
        rw [countDigit?_eq_some_iff.mp step]
        exact ih next
      | none =>
        -- The number has left the words here, and no later digit brings it back.
        refine iff_of_false (fun same => nomatch same) fun same => ?_
        have fits : base.toNat * start.toNat + (value d).toNat < 2 ^ 64 :=
          ((le_foldl_digits positive _).trans_eq same).trans_lt n.toNat_lt
        have counted : countDigit? base value start d =
            some (.ofNat (base.toNat * start.toNat + (value d).toNat)) := by
          rw [countDigit?_eq_some_iff, UInt64.toNat_ofNat_of_lt' fits]
        rw [step] at counted
        cases counted
  exact onward 0

theorem toNat_letterWord (c : Char) : (letterWord c).toNat = c.toUpper.toNat - 'A'.toNat + 1 := by
  refine UInt64.toNat_ofNat_of_lt' ?_
  have bound : c.toUpper.toNat < 2 ^ 32 := c.toUpper.val.toNat_lt
  have size : UInt64.size = 2 ^ 64 := rfl
  omega

theorem toNat_digitWord (c : Char) : (digitWord c).toNat = digitValue c := by
  refine UInt64.toNat_ofNat_of_lt' ?_
  have bound : c.toNat < 2 ^ 32 := c.val.toNat_lt
  have size : UInt64.size = 2 ^ 64 := rfl
  unfold digitValue
  omega

theorem countDigits?_letterWord :
    countDigits? 26 letterWord digits = some n ↔ columnNumber digits = n.toNat := by
  rw [countDigits?_eq_some_iff (by decide), columnNumber]
  simp only [toNat_letterWord]
  rfl

theorem countDigits?_digitWord :
    countDigits? 10 digitWord digits = some n ↔ natOfDigits digits = n.toNat := by
  rw [countDigits?_eq_some_iff (by decide), natOfDigits]
  simp only [toNat_digitWord]
  rfl

theorem eq_none_iff_of_counted {counted : Option UInt64} {number : ℕ}
    (some_iff : ∀ n, counted = some n ↔ number = n.toNat) :
    counted = none ↔ greatestCount < number := by
  cases counted with
  | some n =>
    have here := (some_iff n).mp rfl
    have bound := n.toNat_lt
    refine iff_of_false (fun same => nomatch same) ?_
    unfold greatestCount
    omega
  | none =>
    refine iff_of_true rfl ?_
    by_contra fits
    have word : number < 2 ^ 64 := by
      unfold greatestCount at fits
      omega
    have here := (some_iff (.ofNat number)).mpr (UInt64.toNat_ofNat_of_lt' word).symm
    cases here

end Words

/-- The words never show: numbers that leave them are outside the sheet, and all others are what
they would be without a bound. -/
theorem Position.ofWords?_eq_ofAddress? (chars : List Char) :
    ofWords? chars = ofAddress? chars := by
  rcases parts : splitAddress (trimBlanks chars) with ⟨letters, digits, rest⟩
  simp only [ofWords?, ofAddress?, parts]
  by_cases empty : letters = []
  · subst empty
    have counted : countDigits? 26 letterWord [] = some 0 := rfl
    simp only [counted, if_true, ite_self]
  have nonempty : trimBlanks chars ≠ [] := by
    intro nothing
    rw [nothing] at parts
    cases parts
    exact empty rfl
  rw [if_neg nonempty, if_neg empty]
  have column_none : countDigits? 26 letterWord letters = none ↔ _ :=
    eq_none_iff_of_counted fun _ => countDigits?_letterWord
  have row_none : countDigits? 10 digitWord digits = none ↔ _ :=
    eq_none_iff_of_counted fun _ => countDigits?_digitWord
  cases column_eq : countDigits? 26 letterWord letters with
  | none => rw [if_pos (column_none.mp column_eq)]
  | some column =>
    have column_fits : ¬ greatestCount < columnNumber letters := by
      rw [← column_none, column_eq]
      exact Option.some_ne_none column
    rw [if_neg column_fits]
    simp only [if_neg empty]
    cases row_eq : countDigits? 10 digitWord digits with
    | none => rw [if_pos (row_none.mp row_eq)]
    | some row =>
      have row_fits : ¬ greatestCount < natOfDigits digits := by
        rw [← row_none, row_eq]
        exact Option.some_ne_none row
      rw [if_neg row_fits, countDigits?_letterWord.mp column_eq, countDigits?_digitWord.mp row_eq]
      have column_pos : 1 ≤ column.toNat :=
        countDigits?_letterWord.mp column_eq ▸ columnNumber_pos empty
      have wide : (column = 0 ∨ 16384 < column) ↔ sheetColumns < column.toNat := by
        rw [← UInt64.toNat_inj, UInt64.lt_iff_toNat_lt]
        change (column.toNat = 0 ∨ 16384 < column.toNat) ↔ 16384 < column.toNat
        omega
      have long : (row = 0 ∨ 1048576 < row) ↔ row.toNat = 0 ∨ sheetRows < row.toNat := by
        rw [← UInt64.toNat_inj, UInt64.lt_iff_toNat_lt]
        rfl
      simp only [wide, long]
      split
      · rfl
      split
      · rfl
      split
      · rfl
      · rename_i inside
        rw [not_or] at inside
        rw [UInt64.toNat_sub_of_le row 1 (Nat.one_le_iff_ne_zero.mpr inside.1),
          UInt64.toNat_sub_of_le column 1 column_pos]
        rfl

/-! ## The texts that are addresses -/

/-- A text is read just if it is, between the blanks around it, an address in the sheet, and then as
its position. The numbers may be counted in words of 64 bits: on the way they are the numbers of the
characters so far, or are given up because these are no words. -/
theorem Position.ofAddress?_eq_ok_iff (chars : List Char) :
    (∀ p, ofAddress? chars = .ok p ↔
      ∃ a : AddressText, trimBlanks chars = a.chars ∧ a.InSheet ∧ p = a.position) ∧
    ofWords? chars = ofAddress? chars ∧
    ∀ (run : List Char) (n : UInt64),
      (countDigits? 26 letterWord run = some n ↔ columnNumber run = n.toNat) ∧
        (countDigits? 10 digitWord run = some n ↔ natOfDigits run = n.toNat) := by
  refine ⟨fun p => ⟨exists_of_ofAddress?, ?_⟩, ofWords?_eq_ofAddress? chars,
    fun run n => ⟨countDigits?_letterWord, countDigits?_digitWord⟩⟩
  rintro ⟨a, trimmed, inSheet, rfl⟩
  exact inSheet.ofAddress? trimmed

example : Position.ofAddress? " $xFd$0001048576 ".toList = .ok ⟨1048575, 16383⟩ := rfl

end Spreadsheet
