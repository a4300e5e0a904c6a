import Spreadsheet.Proofs.Infinities
import Spreadsheet.Proofs.Numerals
import Spreadsheet.Proofs.StoredForms

/-!
# Numbers read from their forms

What is read from the text of a number, and from its stored form. Both keep an integer of 64 bits,
and write any other number through its double, so that the shortest decimal of the double is read; a
number without a double is written with all its digits (`Decimal.kept`). The forms can always be
read, and give one number (`Number.forms_read_back`), which is the number itself except where its
double does not tell it apart from a shorter decimal.
-/

namespace Spreadsheet

/-! ## Numerals without a power of ten -/

/-- No character of such a numeral is blank. -/
theorem not_isBlank_of_plain {c : Char} (plain : c.isDigit ∨ c = '.' ∨ c = '-') : ¬ isBlank c := by
  rcases plain with digit | rfl | rfl
  · obtain ⟨low, high⟩ := Char.isDigit_iff_toNat.mp digit
    exact not_isBlank_of_printable (Nat.le_trans (by decide) low) (Nat.le_trans high (by decide))
  · decide
  · decide

section Plain

variable {n : Numeral} {x : Decimal}

/-- A numeral with digits and without a plus sign or a power of ten is read from its own text. -/
theorem Numeral.readFrom_chars (digit : n.digits ≠ []) (unscaled : n.exponent = none)
    (sign : n.sign ≠ .plus) : n.ReadFrom (.ofList n.chars) := by
  refine ⟨⟨.inl digit, by simp [unscaled]⟩, .inl ?_⟩
  rw [String.toList_ofList]
  refine trimBlanks_of_forall fun c member => not_isBlank_of_plain ?_
  rw [chars, unscaled, Option.elim_none, List.append_nil, mantissa] at member
  rcases List.mem_append.mp member with first | rest
  · cases mark : n.sign with
    | plus => exact absurd mark sign
    | absent => rw [mark] at first; cases first
    | minus => rw [mark] at first; exact .inr (.inr (List.mem_singleton.mp first))
  · exact (isDigit_or_point n.decimal c rest).imp_right .inl

/-- What is read from the text of a numeral with the value of a decimal. -/
theorem Numeral.ofText?_ofList (digit : n.digits ≠ []) (unscaled : n.exponent = none)
    (sign : n.sign ≠ .plus) (value : n.value = x.toRat) :
    Number.ofText? (.ofList n.chars) = .ok (.decimal x.round) := by
  obtain ⟨y, read, same⟩ := (readFrom_chars digit unscaled sign).ofText?
  rw [read, Decimal.toRat_injective (same.trans value)]

end Plain

/-! ## Texts of decimals -/

/-- The sign of an integer, as it is written. -/
def SignMark.ofInt (n : ℤ) : SignMark :=
  if n < 0 then .minus else .absent

theorem SignMark.ofInt_ne_plus (n : ℤ) : ofInt n ≠ .plus := by
  rw [ofInt]
  split <;> decide

theorem SignMark.apply_ofInt (n : ℤ) (k : ℕ) : (ofInt n).apply (n.natAbs * k) = n * k := by
  rw [ofInt]
  split
  · rw [apply, ← neg_mul]
    congr 1
    omega
  · rw [show SignMark.absent.apply (n.natAbs * k) = n.natAbs * k from rfl]
    congr 1
    omega

/-- The text of an integer is read as the integer. -/
theorem Number.ofText?_toString (n : ℤ) : ofText? (toString n) = .ok (.ofInt n) := by
  let numeral : Numeral := ⟨.ofInt n, Nat.toDigits 10 n.natAbs, none, none, fun c member =>
    isDigit_of_mem_toDigits (by simpa using member)⟩
  have digits : numeral.digits = Nat.toDigits 10 n.natAbs := List.append_nil _
  have text : toString n = .ofList numeral.chars := by
    have chars : numeral.chars = (SignMark.ofInt n).chars ++ Nat.toDigits 10 n.natAbs := by
      simp [numeral, Numeral.chars, Numeral.mantissa]
    rw [chars, ← String.toList_inj, String.toList_ofList, Int.toString_eq_repr, Int.repr_eq_if,
      SignMark.ofInt]
    rcases Int.lt_or_le n 0 with negative | nonnegative
    · rw [if_neg (by omega), if_pos negative, String.toList_append, Nat.toList_repr,
        show (-n).toNat = n.natAbs by omega]
      rfl
    · rw [if_pos nonnegative, if_neg (by omega), Nat.toList_repr,
        show n.toNat = n.natAbs by omega]
      rfl
  have value : numeral.value = (Decimal.ofInt n).toRat := by
    have magnitude := SignMark.apply_ofInt n 1
    rw [Nat.cast_one, mul_one, mul_one] at magnitude
    rw [Decimal.toRat_ofInt, Numeral.value, digits, Nat.ofDigitChars_ten_toDigits,
      show numeral.sign = .ofInt n from rfl, magnitude]
    exact mul_one _
  rw [text, numeral.ofText?_ofList (digits ▸ Nat.toDigits_ne_nil) rfl (SignMark.ofInt_ne_plus n)
    value]
  rfl

section Positional

variable {x : Decimal}

/-- The digits of a decimal with zeros before and after them, up to the units. -/
def Decimal.padded (x : Decimal) : List Char :=
  List.replicate ((-x.exp).toNat + 1 - (Nat.toDigits 10 x.coeff.natAbs).length) '0' ++
    Nat.toDigits 10 x.coeff.natAbs ++ List.replicate x.exp.toNat '0'

theorem Decimal.isDigit_of_mem_padded {c : Char} (member : c ∈ x.padded) : c.isDigit := by
  rw [padded, List.mem_append, List.mem_append] at member
  rcases member with (zero | digit) | zero
  · rw [List.eq_of_mem_replicate zero]
    decide
  · exact isDigit_of_mem_toDigits digit
  · rw [List.eq_of_mem_replicate zero]
    decide

theorem Decimal.ofDigitChars_padded :
    Nat.ofDigitChars 10 x.padded 0 = x.coeff.natAbs * 10 ^ x.exp.toNat := by
  have zeros : ∀ k, Nat.ofDigitChars 10 (List.replicate k '0') 0 = 0 := fun k => by
    rw [Nat.ofDigitChars_replicate_zero, Nat.mul_zero]
  rw [padded, Nat.ofDigitChars_append, Nat.ofDigitChars_append, zeros,
    Nat.ofDigitChars_ten_toDigits, Nat.ofDigitChars_replicate_zero, Nat.mul_comm]

/-- There is a digit before the places below the units. -/
theorem Decimal.lt_length_padded : (-x.exp).toNat < x.padded.length := by
  rw [padded, List.length_append, List.length_append, List.length_replicate]
  omega

/-- The places below the units, if there are any. -/
def Decimal.fraction? (x : Decimal) : Option (List Char) :=
  let fraction := x.padded.drop (x.padded.length - (-x.exp).toNat)
  if fraction = [] then none else some fraction

theorem Decimal.getD_fraction? :
    x.fraction?.getD [] = x.padded.drop (x.padded.length - (-x.exp).toNat) := by
  rw [fraction?]
  split
  next empty => exact empty.symm
  next => rfl

/-- The text of a decimal, as a numeral. -/
def Decimal.numeral (x : Decimal) : Numeral where
  sign := .ofInt x.coeff
  whole := x.padded.take (x.padded.length - (-x.exp).toNat)
  fraction := x.fraction?
  exponent := none
  decimal c member := by
    rw [getD_fraction?, List.take_append_drop] at member
    exact isDigit_of_mem_padded member

theorem Decimal.digits_numeral : x.numeral.digits = x.padded := by
  rw [Numeral.digits, numeral, getD_fraction?, List.take_append_drop]

theorem Decimal.toChars_eq (x : Decimal) : x.toChars = x.numeral.chars := by
  have fraction : x.fraction?.elim [] ('.' :: ·) =
      let fraction := x.padded.drop (x.padded.length - (-x.exp).toNat)
      if fraction = [] then [] else '.' :: fraction := by
    simp only [fraction?]
    split
    next => rfl
    next => rfl
  have sign : (SignMark.ofInt x.coeff).chars = if x.coeff < 0 then ['-'] else [] := by
    rw [SignMark.ofInt]
    split
    next => rfl
    next => rfl
  simp only [Numeral.chars, Numeral.mantissa, numeral, fraction, sign, toChars, padded,
    Option.elim_none, List.append_nil, List.append_assoc]

/-- The text of a decimal denotes its value. -/
theorem Decimal.value_numeral : x.numeral.value = x.toRat := by
  have places : (x.fraction?.getD []).length = (-x.exp).toNat := by
    rw [getD_fraction?, List.length_drop]
    have := x.lt_length_padded
    omega
  have magnitude := SignMark.apply_ofInt x.coeff (10 ^ x.exp.toNat)
  rw [Numeral.value, digits_numeral, ofDigitChars_padded, toRat,
    show x.numeral.sign = .ofInt x.coeff from rfl, show x.numeral.exponent = none from rfl,
    show x.numeral.fraction = x.fraction? from rfl, places, Nat.cast_mul, magnitude,
    Option.elim_none, zero_sub, zpow_neg, zpow_natCast]
  push_cast
  rw [pow_toNat (by norm_num) x.exp]
  field_simp

/-- The text of a decimal is read as the decimal, rounded to 50 digits. -/
theorem Decimal.ofText?_toString (x : Decimal) :
    Number.ofText? (toString x) = .ok (.decimal x.round) := by
  have text : toString x = .ofList x.numeral.chars := congrArg String.ofList x.toChars_eq
  have digit : x.numeral.digits ≠ [] := by
    rw [digits_numeral]
    exact List.ne_nil_of_length_pos (Nat.zero_lt_of_lt x.lt_length_padded)
  rw [text, x.numeral.ofText?_ofList digit rfl (SignMark.ofInt_ne_plus _) value_numeral]

end Positional

/-! ## Shortest decimals have few digits -/

/-- Whether a double, if it is finite, has a significand and an exponent of the format. -/
def Binary64.InFormat : Binary64 → Prop
  | .finite _ m e => m < 2 ^ 53 ∧ -1074 ≤ e ∧ e ≤ 971
  | _ => True

section Format

variable {x y : Binary64}

theorem Binary64.inFormat_ofRatio (negative : Bool) (num : ℕ) {den : ℕ} (denominator : den ≠ 0) :
    InFormat (ofRatio negative num den) := by
  by_cases numerator : num = 0
  · rw [ofRatio, if_pos numerator]
    exact ⟨by decide, by decide, by decide⟩
  · have least : -1074 ≤ ratioExponent num den := le_max_right _ _
    have most : ratioSignificand num den ≤ 2 ^ 53 := by
      have low := (ratioSignificand_spec num denominator).1
      have below := (ratioExponent_spec numerator denominator).1
      have close : (ratioSignificand num den : ℚ) < 2 ^ 53 + 1 := by linarith
      exact Nat.lt_succ_iff.mp (by exact_mod_cast close)
    rw [ofRatio_eq numerator]
    split
    next carry =>
      split
      next => trivial
      next inside => exact ⟨by decide, by omega, by omega⟩
    next full =>
      split
      next => trivial
      next inside => exact ⟨lt_of_le_of_ne most full, least, by omega⟩

theorem Binary64.inFormat_mul (x y : Binary64) : InFormat (x.mul y) := by
  unfold mul
  split
  · trivial
  · trivial
  · trivial
  · split <;> trivial
  · split <;> trivial
  · exact inFormat_ofRatio _ _ (by positivity)

theorem Binary64.inFormat_div (x y : Binary64) : InFormat (x.div y) := by
  unfold div
  split
  · trivial
  · trivial
  · trivial
  · trivial
  · exact ⟨by decide, by decide, by decide⟩
  · split
    next => split <;> trivial
    next nonzero => exact inFormat_ofRatio _ _ (Nat.mul_ne_zero nonzero (by positivity))

/-- The double of a decimal is one of the format. -/
theorem Decimal.inFormat_of_toBinary64? {x : Decimal} (view : x.toBinary64? = some y) :
    y.InFormat := by
  obtain ⟨scaled, -⟩ := Option.filter_eq_some_iff.mp view
  split at scaled
  · cases scaled
    exact Binary64.inFormat_ofRatio _ _ one_ne_zero
  split at scaled
  · cases scaled
    exact Binary64.inFormat_mul _ _
  split at scaled
  · cases scaled
    exact Binary64.inFormat_div _ _
  · cases scaled

end Format

/-- The search for a double of the format begins not far below its first digit. -/
theorem two_zpow_le_firstPlace {bits : ℤ} (low : -1100 ≤ bits) (high : bits ≤ 1100) :
    (2 : ℚ) ^ bits ≤ 10 ^ (firstPlace bits + 12) := by
  have two : (1 : ℚ) ≤ 2 := one_le_two
  have ten : (1 : ℚ) ≤ 10 := by norm_num
  rw [firstPlace]
  rcases Int.lt_or_le bits 0 with negative | nonnegative
  · -- Thousands against 1024, whose powers with a negative exponent are the smaller ones.
    obtain ⟨k, above, below⟩ : ∃ k : ℕ, bits ≤ -(10 * k : ℕ) ∧ -(10 * k : ℕ) < bits + 10 :=
      ⟨(-bits).toNat / 10, by omega, by omega⟩
    calc (2 : ℚ) ^ bits ≤ 2 ^ (-(10 * k : ℕ) : ℤ) := zpow_le_zpow_right₀ two above
      _ = (1024 ^ k)⁻¹ := by rw [zpow_neg, zpow_natCast, pow_mul]; norm_num
      _ ≤ (1000 ^ k)⁻¹ := by gcongr; norm_num
      _ = 10 ^ (-(3 * k : ℕ) : ℤ) := by rw [zpow_neg, zpow_natCast, pow_mul]; norm_num
      _ ≤ 10 ^ (bits * 30103 / 100000 + 1 + 12) := zpow_le_zpow_right₀ ten (by omega)
  · obtain ⟨k, above, below⟩ : ∃ k : ℕ, bits ≤ (13 * k : ℕ) ∧ (13 * k : ℕ) < bits + 13 :=
      ⟨(bits.toNat + 12) / 13, by omega, by omega⟩
    calc (2 : ℚ) ^ bits ≤ 2 ^ ((13 * k : ℕ) : ℤ) := zpow_le_zpow_right₀ two above
      _ = 8192 ^ k := by rw [zpow_natCast, pow_mul]; norm_num
      _ ≤ 10000 ^ k := by gcongr; norm_num
      _ = 10 ^ ((4 * k : ℕ) : ℤ) := by rw [zpow_natCast, pow_mul]; norm_num
      _ ≤ 10 ^ (bits * 30103 / 100000 + 1 + 12) := zpow_le_zpow_right₀ ten (by omega)

section Shortest

variable {i : RoundingInterval} {place : ℤ}

/-- A point of a grid is at most the value and one more, in steps of the grid. -/
theorem RoundingInterval.le_of_gridPoint? {coeff k : ℕ} (found : i.gridPoint? place = some coeff)
    (small : i.value * 2 ^ i.exponent ≤ (10 : ℚ) ^ (place + k)) : coeff ≤ 10 ^ k + 1 := by
  have scale : (0 : ℚ) < 10 ^ place := by positivity
  have below : i.below place ≤ 10 ^ k := by
    have steps : (i.below place : ℚ) * 10 ^ place ≤ i.value * 2 ^ i.exponent := i.below_le
    have bound := steps.trans small
    rw [zpow_add₀ (by norm_num), mul_comm (10 ^ place : ℚ), mul_le_mul_iff_left₀ scale] at bound
    exact_mod_cast bound
  rcases i.gridPoint?_cases place with ⟨same, -⟩ | ⟨same, -⟩ | ⟨missing, -⟩
  · cases found.symm.trans same
    omega
  · cases found.symm.trans same
    omega
  · cases found.symm.trans missing

/-- The search goes only so many places down, and so ends with few digits. -/
theorem RoundingInterval.natAbs_coeff_shortest_le (fuel : ℕ) {k : ℕ}
    (small : i.value * 2 ^ i.exponent ≤ (10 : ℚ) ^ (place + k)) :
    (i.shortest fuel place).coeff.natAbs ≤ 10 ^ (k + fuel) + 1 := by
  induction fuel generalizing place k with
  | zero =>
    rw [shortest]
    refine (Decimal.natAbs_coeff_ofScaled_le _ _).trans ?_
    cases found : i.gridPoint? place with
    | none => exact Nat.zero_le _
    | some coeff => exact le_of_gridPoint? found small
  | succ fuel ih =>
    rw [shortest, show k + (fuel + 1) = k + 1 + fuel by omega]
    cases found : i.gridPoint? place with
    | none =>
      refine ih (small.trans_eq ?_)
      rw [Nat.cast_add, Nat.cast_one]
      congr 1
      ring
    | some coeff =>
      calc (Decimal.ofScaled coeff place).coeff.natAbs ≤ coeff :=
            Decimal.natAbs_coeff_ofScaled_le _ _
        _ ≤ 10 ^ k + 1 := le_of_gridPoint? found small
        _ ≤ 10 ^ (k + 1 + fuel) + 1 :=
            Nat.succ_le_succ (Nat.pow_le_pow_right (by decide) (by omega))

end Shortest

/-- The shortest decimal of a double has fewer digits than rounding leaves. -/
theorem Decimal.round_ofDouble {negative : Bool} {m : ℕ} {e : ℤ}
    (format : (Binary64.finite negative m e).InFormat) :
    (ofDouble negative m e).round = ofDouble negative m e := by
  obtain ⟨fits, low, high⟩ := format
  refine round_of_lt ?_
  rw [ofDouble]
  split
  next => decide
  next nonzero =>
    have leading : m.log2 < 53 := (Nat.log2_lt nonzero).mpr fits
    have below : ((RoundingInterval.ofDouble m e).value : ℚ) *
        2 ^ (RoundingInterval.ofDouble m e).exponent ≤
          10 ^ (firstPlace (m.log2 + e + 1) + (12 : ℕ)) := by
      have significand : (m : ℚ) ≤ 2 ^ (m.log2 + 1) := by exact_mod_cast Nat.lt_log2_self.le
      calc ((4 * m : ℕ) : ℚ) * 2 ^ (e - 2) = m * 2 ^ e := by
            rw [zpow_sub₀ two_ne_zero]; push_cast; ring
        _ ≤ 2 ^ (m.log2 + 1) * 2 ^ e := by gcongr
        _ = 2 ^ (m.log2 + e + 1 : ℤ) := by
            rw [← zpow_natCast, ← zpow_add₀ two_ne_zero]; congr 1; push_cast; ring
        _ ≤ _ := two_zpow_le_firstPlace (by omega) (by omega)
    have digits := RoundingInterval.natAbs_coeff_shortest_le 20 below
    refine lt_of_le_of_lt ?_ (show 10 ^ (12 + 20) + 1 < 10 ^ precision by decide)
    cases negative with
    | false => exact digits
    | true => exact (Int.natAbs_neg _).trans_le digits

/-! ## Forms of numbers -/

/-- What is read from the forms of a decimal: an integer of 64 bits as it is, another decimal as
the shortest one of its double, and one without a double rounded. -/
def Decimal.kept (x : Decimal) : Decimal :=
  if x.toInt64?.isSome then x
  else
    match x.toBinary64? with
    | some (.finite negative m e) => .ofDouble negative m e
    | _ => x.round

section Forms

variable {x : Decimal} {n : ℤ}

/-- The forms of an integer of 64 bits. -/
theorem Number.forms_of_toInt64? (integer : x.toInt64? = some n) :
    (decimal x).toText = toString n ∧ (decimal x).toJson = .int n := by
  constructor
  · simp [toText, integer]
  · simp [toJson, toInt64?, integer]

/-- The forms of another decimal with a double. -/
theorem Number.forms_of_double {negative : Bool} {m : ℕ} {e : ℤ} (fraction : x.toInt64? = none)
    (double : x.toBinary64? = some (.finite negative m e)) :
    (decimal x).toText = toString (Decimal.ofDouble negative m e) ∧
      (decimal x).toJson = .float (.finite negative m e) := by
  constructor
  · simp [toText, fraction, double]
  · simp [toJson, toInt64?, toBinary64?, Binary64.isFinite, fraction, double]

/-- The forms of another decimal without a double. -/
theorem Number.forms_of_no_double (fraction : x.toInt64? = none) (lost : x.toBinary64? = none) :
    (decimal x).toText = toString x ∧ (decimal x).toJson = .str (toString x) := by
  constructor
  · simp [toText, fraction, lost]
  · simp [toJson, toText, toInt64?, toBinary64?, fraction, lost]

/-- The forms of a decimal: of an integer of 64 bits the integer, of another decimal its double or
the text of the double's decimal, and of one without a double its own text. -/
theorem Decimal.forms_cases (x : Decimal) :
    (∃ n, inInt64 n ∧ Number.ofInt n = .decimal x ∧ x.kept = x ∧
        (Number.decimal x).toText = toString n ∧ (Number.decimal x).toJson = .int n) ∨
      (∃ negative m e, (Binary64.finite negative m e).InFormat ∧
        x.kept = .ofDouble negative m e ∧
        (Number.decimal x).toText = toString (ofDouble negative m e) ∧
        (Number.decimal x).toJson = .float (.finite negative m e)) ∨
      x.kept = x.round ∧ (Number.decimal x).toText = toString x ∧
        (Number.decimal x).toJson = .str (toString x) := by
  cases integer : x.toInt64? with
  | some n =>
    obtain ⟨small, same⟩ := Number.ofInt_of_toInt64? integer
    exact .inl ⟨n, small, same, by simp [kept, integer], Number.forms_of_toInt64? integer⟩
  | none =>
    cases view : x.toBinary64? with
    | none =>
      exact .inr (.inr ⟨by simp [kept, integer, view], Number.forms_of_no_double integer view⟩)
    | some y =>
      obtain ⟨negative, m, e, rfl⟩ := exists_of_toBinary64? view
      exact .inr (.inl ⟨negative, m, e, inFormat_of_toBinary64? view,
        by simp [kept, integer, view], Number.forms_of_double integer view⟩)

/-- A text that is read as a decimal is not the name of an infinity. -/
theorem Number.ofJson?_str {text : String} (read : ofText? text = .ok (.decimal x)) :
    ofJson? (.str text) = some (.decimal x) := by
  unfold ofJson?
  split
  next same => cases same
  next same => cases same
  next same =>
    cases same
    cases (show ofText? "Infinity" = .error (.malformed "Infinity") by decide).symm.trans read
  next same =>
    cases same
    cases (show ofText? "-Infinity" = .error (.malformed "-Infinity") by decide).symm.trans read
  next same =>
    cases same
    rw [read]
    rfl
  next other => exact absurd rfl (other text)

/-- What is kept of a decimal is read from its text. -/
theorem Decimal.ofText?_toText (x : Decimal) :
    Number.ofText? (Number.decimal x).toText = .ok (.decimal x.kept) := by
  rcases x.forms_cases with ⟨n, -, same, kept, text, -⟩ |
    ⟨negative, m, e, format, kept, text, -⟩ | ⟨kept, text, -⟩
  · rw [text, kept, Number.ofText?_toString, same]
  · rw [text, kept, ofText?_toString, round_ofDouble format]
  · rw [text, kept, ofText?_toString]

/-- What is kept of a decimal is read from its stored form. -/
theorem Decimal.ofJson?_toJson (x : Decimal) :
    Number.ofJson? (Number.decimal x).toJson = some (.decimal x.kept) := by
  rcases x.forms_cases with ⟨n, small, same, kept, -, form⟩ |
    ⟨negative, m, e, -, kept, -, form⟩ | ⟨kept, -, form⟩
  · rw [form, kept, Number.ofJson?, if_pos small, same]
  · rw [form, kept, Number.ofJson?, Number.ofBinary64]
  · rw [form, kept, Number.ofJson?_str x.ofText?_toString]

/-- Which decimals are kept as they are. -/
theorem Decimal.kept_eq_iff :
    x.kept = x ↔ x.toInt64?.isSome ∨
      (∃ negative m e, x.toBinary64? = some (.finite negative m e) ∧ ofDouble negative m e = x) ∨
      x.toBinary64? = none ∧ x.coeff.natAbs < 10 ^ precision := by
  rw [kept]
  by_cases integer : x.toInt64?.isSome
  · simp [integer]
  · have rounded : x.round = x ↔ x.coeff.natAbs < 10 ^ precision :=
      ⟨fun same => same ▸ x.natAbs_coeff_round_lt, round_of_lt⟩
    cases view : x.toBinary64? with
    | none => simp [integer, rounded]
    | some y =>
      obtain ⟨negative, m, e, rfl⟩ := exists_of_toBinary64? view
      simp [integer]

/-- Decimals of few digits are kept as they are. -/
theorem Decimal.FewDigits.kept_eq (few : x.FewDigits) : x.kept = x := by
  rw [Decimal.kept_eq_iff]
  cases integer : x.toInt64? with
  | some n => exact .inl rfl
  | none =>
    obtain ⟨m, e, double, same⟩ :=
      few.ofDouble_toBinary64? (coeff_ne_zero_of_toInt64? integer)
    exact .inr (.inl ⟨_, m, e, double, same⟩)

/-- The text and the stored form of every finite number are read as one number. It is the number
itself for the integers of 64 bits, the shortest decimals of their doubles, and the numbers of at
most 50 digits without a double, and for no others; so it is for decimals of few digits. -/
theorem Number.forms_read_back (x : Decimal) :
    ofText? (decimal x).toText = .ok (.decimal x.kept) ∧
    ofJson? (decimal x).toJson = some (.decimal x.kept) ∧
    (x.kept = x ↔ x.toInt64?.isSome ∨
      (∃ negative m e, x.toBinary64? = some (.finite negative m e) ∧
        Decimal.ofDouble negative m e = x) ∨
      x.toBinary64? = none ∧ x.coeff.natAbs < 10 ^ 50) ∧
    (x.FewDigits → x.kept = x) :=
  ⟨x.ofText?_toText, x.ofJson?_toJson, Decimal.kept_eq_iff, Decimal.FewDigits.kept_eq⟩

/-- A fraction of few digits is read back. -/
theorem Number.forms_read_back_fraction :
    let x := Decimal.ofScaled (-314159) (-5)
    x.FewDigits ∧ ofText? (decimal x).toText = .ok (.decimal x) ∧
      ofJson? (decimal x).toJson = some (.decimal x) := by
  intro x
  have few : x.FewDigits := ⟨by decide +kernel, by decide +kernel, by decide +kernel⟩
  obtain ⟨text, form, -, same⟩ := forms_read_back x
  rw [text, form, same few]
  exact ⟨few, rfl, rfl⟩

/-- A decimal with more digits than its double tells apart is read back as another number. -/
theorem Number.forms_read_back_wide :
    let wide := Decimal.ofScaled 1234567890123456789 (-19)
    ∃ other, ofText? (decimal wide).toText = .ok other ∧
      ofJson? (decimal wide).toJson = some other ∧ other.equal (.decimal wide) = false := by
  intro wide
  exact ⟨_, wide.ofText?_toText, wide.ofJson?_toJson, by decide +kernel⟩

end Forms

end Spreadsheet
