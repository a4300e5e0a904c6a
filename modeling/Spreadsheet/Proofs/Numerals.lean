import Mathlib.Algebra.Order.Floor.Semiring
import Mathlib.Data.Int.Log
import Mathlib.Data.Rat.Floor
import Spreadsheet.Proofs.DecimalValues
import Spreadsheet.Text.Pieces

/-!
# Numerals

Which texts are read as numbers, and as which ones. A `Numeral` is a text in the grammar of numbers:
a sign, digits with at most one point among them, and a power of ten. The reader takes these, and by
two slips some more (`Numeral.ReadFrom`): another plus sign before a sign, and a point without digits
before a power of ten. What it reads is the value, rounded once (`Numeral.ReadFrom.ofText?`);
anything else is an error with the text between the blanks around it (`Number.ofText?_numeral`).
-/

namespace Spreadsheet

/-! ## The grammar -/

/-- A sign that may be left out. -/
inductive SignMark where
  | absent
  | plus
  | minus
deriving DecidableEq

def SignMark.chars : SignMark → List Char
  | .absent => []
  | .plus => ['+']
  | .minus => ['-']

def SignMark.apply : SignMark → ℤ → ℤ
  | .minus, n => -n
  | _, n => n

/-- A power of ten after an `e` of either case. -/
structure ExponentPart where
  mark : Char
  sign : SignMark
  digits : List Char
  isMark : mark = 'e' ∨ mark = 'E'
  nonempty : digits ≠ []
  decimal : ∀ c ∈ digits, c.isDigit

def ExponentPart.chars (e : ExponentPart) : List Char :=
  e.mark :: (e.sign.chars ++ e.digits)

def ExponentPart.value (e : ExponentPart) : ℤ :=
  e.sign.apply (Nat.ofDigitChars 10 e.digits 0)

/-- A sign, digits before and after a point, and a power of ten. -/
structure Numeral where
  sign : SignMark
  whole : List Char
  /-- The digits after the point, if there is one. -/
  fraction : Option (List Char)
  exponent : Option ExponentPart
  decimal : ∀ c ∈ whole ++ fraction.getD [], c.isDigit

namespace Numeral

def digits (n : Numeral) : List Char :=
  n.whole ++ n.fraction.getD []

/-- The characters before the power of ten. -/
def mantissa (n : Numeral) : List Char :=
  n.sign.chars ++ (n.whole ++ n.fraction.elim [] ('.' :: ·))

def chars (n : Numeral) : List Char :=
  n.mantissa ++ n.exponent.elim [] ExponentPart.chars

/-- The number that a numeral denotes. -/
def value (n : Numeral) : ℚ :=
  n.sign.apply (Nat.ofDigitChars 10 n.digits 0) *
    10 ^ (n.exponent.elim 0 ExponentPart.value - (n.fraction.getD []).length)

end Numeral

/-! ## Digits and signs -/

section Digits

variable {chars rest : List Char}

theorem natOfChars?_eq_some_iff {n : ℕ} :
    natOfChars? chars = some n ↔
      chars ≠ [] ∧ (∀ c ∈ chars, c.isDigit) ∧ Nat.ofDigitChars 10 chars 0 = n := by
  simp only [natOfChars?, Option.ite_none_right_eq_some, Option.some.injEq, List.all_eq_true,
    natOfDigits_eq_ofDigitChars, and_assoc]

/-- Whether characters do not begin with a sign. -/
def StartsUnsigned (chars : List Char) : Prop :=
  ∀ c ∈ chars.head?, c ≠ '+' ∧ c ≠ '-'

/-- Characters begin with a sign, or with none. -/
theorem exists_signMark (chars : List Char) :
    ∃ (sign : SignMark) (rest : List Char), chars = sign.chars ++ rest ∧
      (sign = .absent → StartsUnsigned rest) := by
  match chars with
  | [] => exact ⟨.absent, [], rfl, fun _ c head => nomatch head⟩
  | c :: rest =>
    by_cases plus : c = '+'
    · exact ⟨.plus, rest, by rw [plus]; rfl, fun absent => nomatch absent⟩
    · by_cases minus : c = '-'
      · exact ⟨.minus, rest, by rw [minus]; rfl, fun absent => nomatch absent⟩
      · refine ⟨.absent, c :: rest, rfl, fun _ d head => ?_⟩
        cases head
        exact ⟨plus, minus⟩

/-- Digits and points are no signs. -/
theorem startsUnsigned_of_isDigit (plain : ∀ c ∈ rest, c.isDigit ∨ c = '.') :
    StartsUnsigned rest := by
  intro c head
  rcases plain c (List.mem_of_mem_head? head) with digit | rfl
  · refine ⟨?_, ?_⟩ <;> rintro rfl <;> cases digit
  · decide

/-- An integer is read from the digits after its sign. -/
theorem intOfChars?_append {sign : SignMark} (unsigned : sign = .absent → StartsUnsigned rest) :
    intOfChars? (sign.chars ++ rest) = (natOfChars? rest).map fun n : ℕ => sign.apply n := by
  cases sign with
  | absent =>
    rw [SignMark.chars, List.nil_append, intOfChars?]
    · rfl
    · rintro digits rfl
      exact (unsigned rfl '+' rfl).1 rfl
    · rintro digits rfl
      exact (unsigned rfl '-' rfl).2 rfl
  | plus => rfl
  | minus => rfl

/-- A mantissa is read from the characters after its sign. -/
theorem Decimal.ofMantissa?_append {sign : SignMark}
    (unsigned : sign = .absent → StartsUnsigned rest) :
    ofMantissa? (sign.chars ++ rest) =
      (ofUnsignedChars? rest).map fun x => if sign = .minus then x.neg else x := by
  cases sign with
  | absent =>
    rw [SignMark.chars, List.nil_append, ofMantissa?]
    · cases ofUnsignedChars? rest <;> rfl
    · rintro digits rfl
      exact (unsigned rfl '-' rfl).2 rfl
    · rintro digits rfl
      exact (unsigned rfl '+' rfl).1 rfl
  | plus => exact Option.map_id'.symm
  | minus => rfl

theorem intOfChars?_eq_some_iff {n : ℤ} :
    intOfChars? chars = some n ↔ ∃ (sign : SignMark) (digits : List Char),
      chars = sign.chars ++ digits ∧ digits ≠ [] ∧ (∀ c ∈ digits, c.isDigit) ∧
        n = sign.apply (Nat.ofDigitChars 10 digits 0) := by
  constructor
  · intro read
    obtain ⟨sign, digits, rfl, unsigned⟩ := exists_signMark chars
    rw [intOfChars?_append unsigned] at read
    obtain ⟨n, magnitude, rfl⟩ := Option.map_eq_some_iff.mp read
    obtain ⟨nonempty, decimal, rfl⟩ := natOfChars?_eq_some_iff.mp magnitude
    exact ⟨sign, digits, rfl, nonempty, decimal, rfl⟩
  · rintro ⟨sign, digits, rfl, nonempty, decimal, rfl⟩
    rw [intOfChars?_append fun _ => startsUnsigned_of_isDigit fun c member => .inl (decimal c member),
      natOfChars?_eq_some_iff.mpr ⟨nonempty, decimal, rfl⟩, Option.map_some]

end Digits

/-! ## Mantissas -/

section Mantissas

variable {chars whole : List Char} {fraction : Option (List Char)} {x : Decimal}

/-- The characters of a mantissa after its sign. -/
theorem isDigit_or_point (digits : ∀ c ∈ whole ++ fraction.getD [], c.isDigit) :
    ∀ c ∈ whole ++ fraction.elim [] ('.' :: ·), c.isDigit ∨ c = '.' := by
  intro c member
  rcases List.mem_append.mp member with before | after
  · exact .inl (digits c (List.mem_append_left _ before))
  · cases fraction with
    | none => cases after
    | some fraction =>
      rcases List.mem_cons.mp after with point | after
      · exact .inr point
      · exact .inl (digits c (List.mem_append_right _ after))

variable (fraction) in
/-- The point splits a mantissa. -/
theorem takeWhile_point (digits : ∀ c ∈ whole, c.isDigit) :
    (whole ++ fraction.elim [] ('.' :: ·)).takeWhile (· ≠ '.') = whole ∧
      ((whole ++ fraction.elim [] ('.' :: ·)).dropWhile (· ≠ '.')).drop 1 = fraction.getD [] := by
  have noPoint : ∀ c ∈ whole, decide (c ≠ '.') = true := by
    intro c member
    refine decide_eq_true ?_
    rintro rfl
    cases digits _ member
  have point : ∀ c ∈ (fraction.elim [] ('.' :: ·)).head?, ¬ decide (c ≠ '.') = true := by
    cases fraction with
    | none => exact fun c first => nomatch first
    | some fraction =>
      rintro c ⟨⟩
      decide
  obtain ⟨before, after⟩ := takeWhile_dropWhile_append noPoint point
  refine ⟨before, ?_⟩
  rw [after]
  cases fraction <;> rfl

theorem exists_point (chars : List Char) : ∃ fraction : Option (List Char),
    chars = chars.takeWhile (· ≠ '.') ++ fraction.elim [] ('.' :: ·) ∧
      (chars.dropWhile (· ≠ '.')).drop 1 = fraction.getD [] := by
  have split := List.takeWhile_append_dropWhile (p := (· ≠ '.')) (l := chars)
  have head := List.head?_dropWhile_not (· ≠ '.') chars
  cases tail : chars.dropWhile (· ≠ '.') with
  | nil =>
    rw [tail] at split
    exact ⟨none, split.symm, rfl⟩
  | cons point rest =>
    rw [tail] at split head
    obtain rfl : point = '.' := not_not.mp (of_decide_eq_false head)
    exact ⟨some rest, split.symm, rfl⟩

theorem Decimal.ofUnsignedChars?_eq_some_iff :
    ofUnsignedChars? chars = some x ↔ ∃ (whole : List Char) (fraction : Option (List Char)),
      chars = whole ++ fraction.elim [] ('.' :: ·) ∧ chars ≠ [] ∧
        (∀ c ∈ whole ++ fraction.getD [], c.isDigit) ∧
        x = ofScaled (Nat.ofDigitChars 10 (whole ++ fraction.getD []) 0)
          (-(fraction.getD []).length) := by
  simp only [ofUnsignedChars?, Option.ite_none_right_eq_some, List.all_eq_true, Option.some.injEq,
    natOfDigits_eq_ofDigitChars]
  constructor
  · rintro ⟨⟨nonempty, digits⟩, rfl⟩
    obtain ⟨fraction, split, after⟩ := exists_point chars
    rw [after] at digits ⊢
    exact ⟨_, fraction, split, nonempty, digits, rfl⟩
  · rintro ⟨whole, fraction, rfl, nonempty, digits, rfl⟩
    obtain ⟨before, after⟩ := takeWhile_point fraction
      fun c member => digits c (List.mem_append_left _ member)
    rw [before, after]
    exact ⟨⟨nonempty, digits⟩, rfl⟩

theorem Decimal.ofMantissa?_eq_some_iff :
    ofMantissa? chars = some x ↔
      ∃ (sign : SignMark) (whole : List Char) (fraction : Option (List Char)),
        chars = sign.chars ++ (whole ++ fraction.elim [] ('.' :: ·)) ∧
          whole ++ fraction.elim [] ('.' :: ·) ≠ [] ∧
          (∀ c ∈ whole ++ fraction.getD [], c.isDigit) ∧
          x = ofScaled (sign.apply (Nat.ofDigitChars 10 (whole ++ fraction.getD []) 0))
            (-(fraction.getD []).length) := by
  have signed : ∀ (sign : SignMark) (n : ℕ) (exp : ℤ),
      (if sign = .minus then (ofScaled n exp).neg else ofScaled n exp) =
        ofScaled (sign.apply n) exp := by
    intro sign n exp
    cases sign with
    | absent => rfl
    | plus => rfl
    | minus => exact (ofScaled_neg n exp).symm
  constructor
  · intro read
    obtain ⟨sign, rest, rfl, unsigned⟩ := exists_signMark chars
    rw [ofMantissa?_append unsigned] at read
    obtain ⟨y, magnitude, rfl⟩ := Option.map_eq_some_iff.mp read
    obtain ⟨whole, fraction, rfl, nonempty, digits, rfl⟩ := ofUnsignedChars?_eq_some_iff.mp magnitude
    exact ⟨sign, whole, fraction, rfl, nonempty, digits, signed _ _ _⟩
  · rintro ⟨sign, whole, fraction, rfl, nonempty, digits, rfl⟩
    have unsigned : StartsUnsigned (whole ++ fraction.elim [] ('.' :: ·)) :=
      startsUnsigned_of_isDigit (isDigit_or_point digits)
    rw [ofMantissa?_append fun _ => unsigned, ofUnsignedChars?_eq_some_iff.mpr
      ⟨whole, fraction, rfl, nonempty, digits, rfl⟩, Option.map_some, signed]

end Mantissas

/-! ## Numerals -/

namespace Numeral

variable {n : Numeral}

/-- Whether some digit stands where the reader looks for one: before the power of ten or, by a slip,
only in it, after a point alone. The power of ten has to fit a 64-bit word. -/
structure Readable (n : Numeral) : Prop where
  digit : n.digits ≠ [] ∨ n.fraction = some [] ∧ n.exponent ≠ none
  moderate : ∀ e ∈ n.exponent, inInt64 e.value

/-- The characters before the power of ten are digits, points and signs. -/
theorem plain_of_mem_mantissa {c : Char} (member : c ∈ n.mantissa) :
    c.isDigit ∨ c = '.' ∨ c = '+' ∨ c = '-' := by
  rcases List.mem_append.mp member with sign | rest
  · cases mark : n.sign <;> simp [mark, SignMark.chars] at sign <;> simp [sign]
  · exact (isDigit_or_point n.decimal c rest).imp_right .inl

/-- No character before the power of ten is an `e`. -/
theorem not_mark_of_mem_mantissa {c : Char} (member : c ∈ n.mantissa) : ¬ (c = 'e' ∨ c = 'E') := by
  have plain := plain_of_mem_mantissa member
  rintro (rfl | rfl) <;> revert plain <;> decide

/-- The power of ten is what follows the first `e`. -/
theorem takeWhile_chars :
    n.chars.takeWhile (fun c => ¬ (c = 'e' ∨ c = 'E')) = n.mantissa ∧
      n.chars.dropWhile (fun c => ¬ (c = 'e' ∨ c = 'E')) = n.exponent.elim [] ExponentPart.chars := by
  have before : ∀ c ∈ n.mantissa, decide (¬ (c = 'e' ∨ c = 'E')) = true :=
    fun c member => decide_eq_true (not_mark_of_mem_mantissa member)
  have mark : ∀ c ∈ (n.exponent.elim [] ExponentPart.chars).head?,
      ¬ decide (¬ (c = 'e' ∨ c = 'E')) = true := by
    cases n.exponent with
    | none => exact fun c first => nomatch first
    | some e =>
      rintro c ⟨⟩ kept
      exact of_decide_eq_true kept e.isMark
  exact takeWhile_dropWhile_append before mark

end Numeral

section Reading

variable {chars : List Char} {x : Decimal}

/-- A power of ten scales the value. -/
theorem Decimal.toRat_ofScaled_add (x : Decimal) (e : ℤ) :
    (ofScaled x.coeff (x.exp + e)).toRat = x.toRat * 10 ^ e := by
  rw [toRat_ofScaled, zpow_add₀ (by norm_num), toRat, mul_assoc]

/-- The value of a numeral is that of its mantissa, scaled. -/
theorem Numeral.value_eq (n : Numeral) :
    n.value = (Decimal.ofScaled (n.sign.apply (Nat.ofDigitChars 10 n.digits 0))
      (-(n.fraction.getD []).length)).toRat * 10 ^ n.exponent.elim 0 ExponentPart.value := by
  rw [value, Decimal.toRat_ofScaled, mul_assoc, ← zpow_add₀ (by norm_num), neg_add_eq_sub]

/-- Some character of a readable numeral is a digit. -/
theorem Numeral.Readable.any_isDigit {n : Numeral} (readable : n.Readable) :
    n.chars.any Char.isDigit := by
  rw [List.any_eq_true]
  rcases readable.digit with digit | ⟨-, present⟩
  · obtain ⟨c, member⟩ := List.exists_mem_of_ne_nil _ digit
    refine ⟨c, List.mem_append_left _ (List.mem_append_right _ ?_), n.decimal c member⟩
    rcases List.mem_append.mp member with whole | fraction
    · exact List.mem_append_left _ whole
    · refine List.mem_append_right _ ?_
      cases split : n.fraction with
      | none => rw [split] at fraction; cases fraction
      | some digits => rw [split] at fraction; exact List.mem_cons_of_mem _ fraction
  · obtain ⟨e, split⟩ := Option.ne_none_iff_exists'.mp present
    obtain ⟨c, member⟩ := List.exists_mem_of_ne_nil _ e.nonempty
    refine ⟨c, List.mem_append_right _ ?_, e.decimal c member⟩
    rw [split]
    exact List.mem_cons_of_mem _ (List.mem_append_right _ member)

/-- A power of ten is read if it fits a 64-bit word. -/
theorem ExponentPart.filter_intOfChars? (e : ExponentPart) (moderate : inInt64 e.value) :
    (intOfChars? (e.sign.chars ++ e.digits)).filter inInt64 = some e.value := by
  rw [intOfChars?_eq_some_iff.mpr ⟨e.sign, e.digits, rfl, e.nonempty, e.decimal, rfl⟩]
  exact Option.filter_eq_some_iff.mpr ⟨rfl, moderate⟩

/-- Something stands between the sign and the power of ten. -/
theorem Numeral.Readable.body_ne_nil {n : Numeral} (readable : n.Readable) :
    n.whole ++ n.fraction.elim [] ('.' :: ·) ≠ [] := by
  rcases readable.digit with digit | ⟨point, -⟩
  · intro empty
    obtain ⟨noWhole, noFraction⟩ := List.append_eq_nil_iff.mp empty
    cases split : n.fraction with
    | none => exact digit (by rw [digits, noWhole, split]; rfl)
    | some _ => rw [split] at noFraction; cases noFraction
  · rw [point]
    exact List.append_ne_nil_of_right_ne_nil _ (List.cons_ne_nil _ _)

/-- What a numeral is read as. -/
theorem Numeral.Readable.ofChars?_chars {n : Numeral} (readable : n.Readable) :
    ∃ x, Decimal.ofChars? n.chars = some x ∧ x.toRat = n.value := by
  obtain ⟨before, after⟩ := n.takeWhile_chars
  have mantissa := Decimal.ofMantissa?_eq_some_iff.mpr
    ⟨n.sign, n.whole, n.fraction, rfl, readable.body_ne_nil, n.decimal, rfl⟩
  refine ⟨_, ?_, (Decimal.toRat_ofScaled_add _ _).trans n.value_eq.symm⟩
  unfold Decimal.ofChars?
  simp only [before, after, if_pos readable.any_isDigit]
  rw [Numeral.mantissa, mantissa]
  cases split : n.exponent with
  | none => rfl
  | some e =>
    simp only [Option.elim_some, ExponentPart.chars, e.filter_intOfChars? (readable.moderate e split)]
    rfl

/-- What is read is a numeral. -/
theorem Numeral.exists_of_ofChars? (read : Decimal.ofChars? chars = some x) :
    ∃ n : Numeral, chars = n.chars ∧ n.Readable ∧ x.toRat = n.value := by
  unfold Decimal.ofChars? at read
  simp only [Option.ite_none_right_eq_some, Option.bind_eq_bind, Option.bind_eq_some_iff] at read
  obtain ⟨digit, y, mantissa, e, exponent, read⟩ := read
  cases read
  obtain ⟨sign, whole, fraction, front, nonempty, decimal, rfl⟩ :=
    Decimal.ofMantissa?_eq_some_iff.mp mantissa
  obtain ⟨part, tail, value, moderate⟩ : ∃ part : Option ExponentPart,
      chars.dropWhile (fun c => ¬ (c = 'e' ∨ c = 'E')) = part.elim [] ExponentPart.chars ∧
        e = part.elim 0 ExponentPart.value ∧ ∀ e ∈ part, inInt64 e.value := by
    have head := List.head?_dropWhile_not (fun c => ¬ (c = 'e' ∨ c = 'E')) chars
    cases tail : chars.dropWhile (fun c => ¬ (c = 'e' ∨ c = 'E')) with
    | nil =>
      simp only [tail] at exponent
      exact ⟨none, rfl, (Option.some.inj exponent).symm, fun _ absent => nomatch absent⟩
    | cons mark rest =>
      simp only [tail] at exponent
      rw [tail] at head
      obtain ⟨integer, moderate⟩ := Option.filter_eq_some_iff.mp exponent
      obtain ⟨sign, digits, rfl, nonempty, decimal, rfl⟩ := intOfChars?_eq_some_iff.mp integer
      refine ⟨some ⟨mark, sign, digits, not_not.mp (of_decide_eq_false head), nonempty, decimal⟩,
        rfl, rfl, ?_⟩
      rintro _ ⟨⟩
      exact moderate
  have split : chars = (Numeral.mk sign whole fraction part decimal).chars := by
    rw [← List.takeWhile_append_dropWhile (p := fun c => ¬ (c = 'e' ∨ c = 'E')) (l := chars), tail,
      front]
    rfl
  refine ⟨⟨sign, whole, fraction, part, decimal⟩, split, ⟨?_, moderate⟩, ?_⟩
  · -- Without digits before it, a digit can only be in the power of ten.
    refine or_iff_not_imp_left.mpr fun noDigit => ?_
    obtain ⟨rfl, noFraction⟩ := List.append_eq_nil_iff.mp (not_not.mp noDigit)
    obtain rfl : fraction = some [] := by
      cases fraction with
      | none => exact absurd rfl nonempty
      | some digits => exact congrArg some noFraction
    refine ⟨rfl, ?_⟩
    rintro rfl
    rw [split] at digit
    cases sign <;> cases digit
  · rw [Decimal.toRat_ofScaled_add, Numeral.value_eq, value]
    rfl

end Reading

/-! ## Rounding -/

/-- The number with at most so many significant digits that is nearest to a given one, a half away
from zero. -/
def roundSignificant (digits : ℕ) (q : ℚ) : ℚ :=
  let unit : ℚ := 10 ^ (Int.log 10 |q| + 1 - digits)
  let magnitude := ⌊|q| / unit + 1 / 2⌋ * unit
  if q < 0 then -magnitude else magnitude

section Rounding

variable {x : Decimal} {digits : ℕ}

theorem roundHalfUp_eq_floor {n m : ℕ} (positive : 0 < m) :
    (roundHalfUp n m : ℤ) = ⌊(n : ℚ) / m + 1 / 2⌋ := by
  have single : (n : ℚ) / m + 1 / 2 = ((2 * n + m : ℕ) : ℤ) / ((2 * m : ℕ) : ℚ) := by
    have : (m : ℚ) ≠ 0 := by positivity
    push_cast
    field_simp
  rw [single, Rat.floor_intCast_div_natCast, roundHalfUp, Int.natCast_div]

theorem floor_natCast_add_half (n : ℕ) : ⌊(n : ℚ) + 1 / 2⌋ = (n : ℤ) := by
  rw [Int.floor_eq_iff, Int.cast_natCast]
  constructor <;> linarith

/-- The place of the first digit of a decimal. -/
theorem Decimal.log_abs_toRat (nonzero : x.coeff ≠ 0) :
    Int.log 10 |x.toRat| = digitCount x.coeff.natAbs - 1 + x.exp := by
  have magnitude : x.coeff.natAbs ≠ 0 := Int.natAbs_ne_zero.mpr nonzero
  have positive : 0 < |x.toRat| := abs_pos.mpr fun zero => nonzero (toRat_eq_zero.mp zero)
  have scale : (0 : ℚ) < 10 ^ x.exp := by positivity
  have count : ((digitCount x.coeff.natAbs - 1 : ℕ) : ℤ) = digitCount x.coeff.natAbs - 1 :=
    Int.natCast_pred_of_pos (digitCount_pos _)
  apply le_antisymm
  · rw [← Int.lt_add_one_iff, ← Int.lt_zpow_iff_log_lt (by decide) positive, abs_toRat,
      show (digitCount x.coeff.natAbs - 1 + x.exp + 1 : ℤ) = digitCount x.coeff.natAbs + x.exp by ring,
      Nat.cast_ofNat, zpow_add₀ (by norm_num), zpow_natCast]
    exact mul_lt_mul_of_pos_right (by exact_mod_cast lt_pow_digitCount x.coeff.natAbs) scale
  · rw [← Int.zpow_le_iff_le_log (by decide) positive, abs_toRat, Nat.cast_ofNat,
      zpow_add₀ (by norm_num), ← count, zpow_natCast]
    exact mul_le_mul_of_nonneg_right (by exact_mod_cast pow_pred_digitCount_le magnitude) scale.le

/-- Taking digits away from a magnitude, in units of the last digit that is left. -/
theorem Decimal.floor_abs_toRat (nonzero : x.coeff ≠ 0) :
    let unit : ℚ := 10 ^ (Int.log 10 |x.toRat| + 1 - digits)
    ⌊|x.toRat| / unit + 1 / 2⌋ * unit =
      roundHalfUp x.coeff.natAbs (10 ^ x.surplus digits) * 10 ^ x.surplus digits * 10 ^ x.exp := by
  intro unit
  have place : unit = 10 ^ ((digitCount x.coeff.natAbs : ℤ) - digits) * 10 ^ x.exp := by
    rw [← zpow_add₀ (by norm_num), show unit = 10 ^ (Int.log 10 |x.toRat| + 1 - digits) from rfl,
      log_abs_toRat nonzero]
    congr 1
    ring
  have scale : (10 : ℚ) ^ x.exp ≠ 0 := by positivity
  have quotient : |x.toRat| / unit =
      x.coeff.natAbs / 10 ^ ((digitCount x.coeff.natAbs : ℤ) - digits) := by
    rw [place, abs_toRat, mul_div_mul_right _ _ scale]
  rcases le_total digits (digitCount x.coeff.natAbs) with cut | fits
  · have surplus : (digitCount x.coeff.natAbs : ℤ) - digits = x.surplus digits := by
      rw [Decimal.surplus, Int.natCast_sub cut]
    rw [quotient, place, surplus, zpow_natCast]
    have floor := roundHalfUp_eq_floor (n := x.coeff.natAbs) (m := 10 ^ x.surplus digits)
      (by positivity)
    push_cast at floor
    rw [← floor]
    push_cast
    ring
  · have surplus : x.surplus digits = 0 := Nat.sub_eq_zero_of_le fits
    have missing : (digitCount x.coeff.natAbs : ℤ) - digits =
        -((digits - digitCount x.coeff.natAbs : ℕ) : ℤ) := by omega
    have whole : roundHalfUp x.coeff.natAbs 1 = x.coeff.natAbs := by
      rw [roundHalfUp]
      omega
    have floor := floor_natCast_add_half (x.coeff.natAbs * 10 ^ (digits - digitCount x.coeff.natAbs))
    rw [Nat.cast_mul, Nat.cast_pow, Nat.cast_ofNat] at floor
    rw [quotient, place, surplus, missing, zpow_neg, zpow_natCast, div_inv_eq_mul, floor, pow_zero,
      whole, Int.cast_natCast, Nat.cast_mul, Nat.cast_pow, Nat.cast_ofNat]
    field_simp

/-- A decimal is rounded as its value is. -/
theorem Decimal.toRat_roundTo_eq_roundSignificant (x : Decimal) :
    (x.roundTo digits).toRat = roundSignificant digits x.toRat := by
  rcases Int.lt_trichotomy x.coeff 0 with negative | zero | positive
  · rw [roundSignificant, if_pos (toRat_lt_zero.mpr negative), floor_abs_toRat negative.ne,
      toRat_roundTo, Int.sign_eq_neg_one_of_neg negative]
    push_cast
    ring
  · have value : x.toRat = 0 := toRat_eq_zero.mpr zero
    rw [toRat_roundTo, zero, roundSignificant, value]
    norm_num
  · rw [roundSignificant, if_neg (toRat_pos.mpr positive).le.not_gt, floor_abs_toRat positive.ne',
      toRat_roundTo, Int.sign_eq_one_of_pos positive, Int.cast_one, one_mul]

end Rounding

/-! ## Numbers -/

/-- Whether a numeral stands in a text between blanks, perhaps after a plus sign more. -/
def Numeral.ReadFrom (n : Numeral) (text : String) : Prop :=
  n.Readable ∧ (trimBlanks text.toList = n.chars ∨
    n.sign ≠ .absent ∧ trimBlanks text.toList = '+' :: n.chars)

/-- The numeral without its sign. -/
def Numeral.unsigned (n : Numeral) : Numeral :=
  { n with sign := .absent }

section Plus

variable {n : Numeral} {text : String} {body : List Char}

theorem Numeral.chars_of_plus (plus : n.sign = .plus) : n.chars = '+' :: n.unsigned.chars := by
  rw [chars, mantissa, plus]
  rfl

theorem Numeral.value_of_plus (plus : n.sign = .plus) : n.unsigned.value = n.value := by
  rw [value, value, plus]
  rfl

/-- A numeral without a sign does not begin with one. -/
theorem Numeral.startsUnsigned_chars (absent : n.sign = .absent) : StartsUnsigned n.chars := by
  intro c head
  rw [chars, mantissa, absent, SignMark.chars, List.nil_append, List.head?_append] at head
  rcases Option.or_eq_some_iff.mp head with first | ⟨-, later⟩
  · exact startsUnsigned_of_isDigit (isDigit_or_point n.decimal) c first
  · cases split : n.exponent with
    | none =>
      rw [split] at later
      cases later
    | some e =>
      rw [split] at later
      obtain rfl : e.mark = c := Option.some.inj later
      rcases e.isMark with lower | upper
      · rw [lower]
        decide
      · rw [upper]
        decide

/-- Only a numeral with a plus sign begins with one. -/
theorem Numeral.head?_chars (other : n.sign ≠ .plus) : n.chars.head? ≠ some '+' := by
  intro head
  cases sign : n.sign with
  | plus => exact other sign
  | minus =>
    rw [chars, mantissa, sign] at head
    cases head
  | absent => exact (startsUnsigned_chars sign '+' head).1 rfl

/-- One plus sign is taken away from the text between the blanks. -/
def IsBodyOf (body : List Char) (text : String) : Prop :=
  trimBlanks text.toList = '+' :: body ∨ trimBlanks text.toList = body ∧ body.head? ≠ some '+'

theorem exists_isBodyOf (text : String) : ∃ body, IsBodyOf body text := by
  cases trimmed : trimBlanks text.toList with
  | nil => exact ⟨[], .inr ⟨trimmed, by simp⟩⟩
  | cons c rest =>
    by_cases plus : c = '+'
    · exact ⟨rest, .inl (plus ▸ trimmed)⟩
    · exact ⟨c :: rest, .inr ⟨trimmed, by simpa using plus⟩⟩

theorem Number.ofText?_of_isBodyOf (isBody : IsBodyOf body text) :
    ofText? text =
      match Decimal.ofChars? body with
      | some x => .ok (.decimal x.round)
      | none => .error (.malformed (trimText text)) := by
  unfold ofText?
  extract_lets trimmed stripped
  have same : stripped = body := by
    unfold stripped trimmed
    rcases isBody with plus | ⟨plain, head⟩
    · rw [plus]
      rfl
    · split
      next rest plus => exact absurd (congrArg List.head? (plain.symm.trans plus)) head
      next => exact plain
  rw [same]
  rfl

/-- A numeral between blanks is read as its value, rounded to 50 digits. -/
theorem Numeral.ReadFrom.ofText? (readFrom : n.ReadFrom text) :
    ∃ x : Decimal, Number.ofText? text = .ok (.decimal x.round) ∧ x.toRat = n.value := by
  obtain ⟨readable, standing⟩ := readFrom
  -- The body is the text of a numeral with the same value.
  obtain ⟨m, isBody, unchanged, same⟩ : ∃ m : Numeral, IsBodyOf m.chars text ∧ m.Readable ∧
      m.value = n.value := by
    rcases standing with whole | ⟨-, after⟩
    · by_cases plus : n.sign = .plus
      · exact ⟨n.unsigned, .inl (whole.trans (chars_of_plus plus)),
          ⟨readable.digit, readable.moderate⟩, value_of_plus plus⟩
      · exact ⟨n, .inr ⟨whole, head?_chars plus⟩, readable, rfl⟩
    · exact ⟨n, .inl after, readable, rfl⟩
  obtain ⟨x, read, value⟩ := unchanged.ofChars?_chars
  exact ⟨x, by rw [Number.ofText?_of_isBodyOf isBody, read], value.trans same⟩

/-- What is read as a number is a numeral between blanks, perhaps after a plus sign more. -/
theorem Number.exists_numeral {x : Number} (read : ofText? text = .ok x) :
    ∃ n : Numeral, n.Readable ∧
      (trimBlanks text.toList = n.chars ∨ trimBlanks text.toList = '+' :: n.chars) := by
  obtain ⟨body, isBody⟩ := exists_isBodyOf text
  rw [ofText?_of_isBodyOf isBody] at read
  cases decimal : Decimal.ofChars? body with
  | none =>
    rw [decimal] at read
    cases read
  | some y =>
    obtain ⟨n, rfl, readable, -⟩ := Numeral.exists_of_ofChars? decimal
    exact ⟨n, readable, isBody.elim .inr fun plain => .inl plain.1⟩

end Plus

/-- A text between blanks that holds a numeral is read as its value, rounded to 50 digits, a half
away from zero; any other text is an error. -/
theorem Number.ofText?_numeral (text : String) :
    (∀ n : Numeral, n.ReadFrom text →
      ∃ x, ofText? text = .ok (.decimal x) ∧ x.toRat = roundSignificant Decimal.precision n.value) ∧
    ((∀ n : Numeral, ¬ n.ReadFrom text) → ofText? text = .error (.malformed (trimText text))) := by
  constructor
  · intro n readFrom
    obtain ⟨x, read, value⟩ := readFrom.ofText?
    exact ⟨x.round, read, by rw [Decimal.round, x.toRat_roundTo_eq_roundSignificant, value]⟩
  · intro none
    obtain ⟨body, isBody⟩ := exists_isBodyOf text
    rw [ofText?_of_isBodyOf isBody]
    cases read : Decimal.ofChars? body with
    | none => rfl
    | some x =>
      obtain ⟨n, rfl, readable, -⟩ := Numeral.exists_of_ofChars? read
      rcases isBody with plus | ⟨plain, -⟩
      · by_cases absent : n.sign = .absent
        · refine absurd ⟨⟨readable.digit, readable.moderate⟩, .inl ?_⟩ (none { n with sign := .plus })
          rw [plus, Numeral.chars, Numeral.chars, Numeral.mantissa, Numeral.mantissa, absent]
          rfl
        · exact absurd ⟨readable, .inr ⟨absent, plus⟩⟩ (none n)
      · exact absurd ⟨readable, .inl plain⟩ (none n)

/-- A numeral between blanks, and letters. -/
theorem Number.ofText?_numeral_or_letters :
    (∃ x, ofText? " 12.5e1 " = .ok (.decimal x) ∧
      x.toRat = roundSignificant Decimal.precision 125) ∧
    ofText? "abc" = .error (.malformed (trimText "abc")) := by
  let e : ExponentPart := ⟨'e', .absent, ['1'], .inl rfl, by decide, List.all_eq_true.mp rfl⟩
  let n : Numeral := ⟨.absent, ['1', '2'], some ['5'], some e, List.all_eq_true.mp rfl⟩
  have standing : n.ReadFrom " 12.5e1 " := by
    refine ⟨⟨.inl (by decide), ?_⟩, .inl (by decide)⟩
    rintro _ ⟨⟩
    decide
  have value : n.value = 125 := by
    rw [show n.value = (125 : ℤ) * 10 ^ (1 - 1 : ℤ) from rfl]
    norm_num
  have letters : ∀ n : Numeral, ¬ n.ReadFrom "abc" := by
    rintro n ⟨readable, whole | ⟨-, after⟩⟩
    · have digit := readable.any_isDigit
      rw [← whole] at digit
      revert digit
      decide
    · have first : (trimBlanks "abc".toList).head? ≠ some '+' := by decide
      exact first (congrArg List.head? after)
  exact ⟨value ▸ (ofText?_numeral " 12.5e1 ").1 n standing, (ofText?_numeral "abc").2 letters⟩

/-- A point alone is no digit. -/
theorem Numeral.digits_of_mantissa {n : Numeral} (point : n.mantissa = ['.']) : n.digits = [] := by
  rcases n with ⟨sign, whole, fraction, exponent, decimal⟩
  unfold Numeral.mantissa at point
  cases sign with
  | plus => exact absurd (List.cons.inj point).1 (by decide)
  | minus => exact absurd (List.cons.inj point).1 (by decide)
  | absent =>
    cases whole with
    | nil =>
      cases fraction with
      | none => cases point
      | some digits => exact (List.cons.inj point).2
    | cons c rest =>
      have digit : c.isDigit := decimal c List.mem_cons_self
      rw [show c = '.' from (List.cons.inj point).1] at digit
      cases digit

/-- Two texts that are read, one as minus five and one as zero, although no numeral with a digit is
between the blanks. -/
theorem Number.ofText?_no_numeral :
    (ofText? "+-5" = .ok (.ofInt (-5)) ∧
      ¬ ∃ n : Numeral, n.digits ≠ [] ∧ trimBlanks "+-5".toList = n.chars) ∧
    ofText? ".e5" = .ok (.ofInt 0) ∧
      ¬ ∃ n : Numeral, n.digits ≠ [] ∧ trimBlanks ".e5".toList = n.chars := by
  refine ⟨⟨by decide +kernel, ?_⟩, by decide +kernel, ?_⟩
  · rintro ⟨n, -, standing⟩
    have spelled : n.chars = ['+', '-', '5'] := standing.symm.trans (by decide)
    cases sign : n.sign with
    | absent =>
      exact (Numeral.startsUnsigned_chars sign '+' (by rw [spelled]; rfl)).1 rfl
    | plus =>
      rw [Numeral.chars_of_plus sign] at spelled
      have rest : n.unsigned.chars = ['-', '5'] := (List.cons.inj spelled).2
      exact (Numeral.startsUnsigned_chars rfl '-' (by rw [rest]; rfl)).2 rfl
    | minus =>
      rw [Numeral.chars, Numeral.mantissa, sign] at spelled
      exact absurd (List.cons.inj spelled).1 (by decide)
  · rintro ⟨n, digit, standing⟩
    have spelled : n.chars = ['.', 'e', '5'] := standing.symm.trans (by decide)
    have mantissa : n.mantissa = ['.'] := by
      rw [← n.takeWhile_chars.1, spelled]
      decide
    exact digit (Numeral.digits_of_mantissa mantissa)

end Spreadsheet
