import Spreadsheet.Proofs.Integers
import Spreadsheet.Proofs.NumberForms

/-!
# Doubles of opposite numbers

The double of a decimal is made from the 53 leading bits of its coefficient, and the bits after them
are cut off toward minus infinity. Rounding, products and quotients of doubles take no notice of
signs (`Binary64.ofRatio_neg`, `Binary64.neg_mul`, `Binary64.neg_div`), but this cut does: negating
an integer turns it into a cut toward plus infinity (`leadingInteger_neg`,
`Decimal.toBinary64?_neg`). So the doubles of a number and of its negation are opposite if no bit is
lost, and otherwise the double of the negation lies below the opposite one, though not far
(`Number.opposite_doubles`).
-/

namespace Spreadsheet

/-! ## Leading bits -/

/-- The number of binary digits of an integer after the 53 leading ones. -/
def surplusBits (n : ℤ) : ℕ :=
  n.natAbs.log2 + 1 - 53

/-- The integer of the leading binary digits, the ones after them cut off toward minus infinity. -/
def leadingInteger (n : ℤ) : ℤ :=
  n / 2 ^ surplusBits n

/-- Whether all binary digits that are cut off are zeros. -/
def KeepsBits (n : ℤ) : Prop :=
  2 ^ surplusBits n ∣ n
deriving Decidable

/-- The leading bits of an integer, the ones after them cut off toward plus infinity. -/
def leadingBitsUp (n : ℤ) : ℤ :=
  (leadingInteger n + if KeepsBits n then 0 else 1) * 2 ^ surplusBits n

section LeadingBits

variable {n : ℤ}

theorem surplusBits_neg (n : ℤ) : surplusBits (-n) = surplusBits n := by
  rw [surplusBits, Int.natAbs_neg, surplusBits]

theorem leadingBits_eq (n : ℤ) : leadingBits n = leadingInteger n * 2 ^ surplusBits n := by
  have surplus : (if n = 0 then 0 else n.natAbs.log2 + 1 - 53) = surplusBits n := by
    split
    next zero => rw [zero]; rfl
    next => rfl
  rw [leadingBits, surplus, leadingInteger]

/-- The integer of the leading digits is negated with the integer unless a digit is lost, and is one
less otherwise. -/
theorem leadingInteger_neg (n : ℤ) :
    leadingInteger (-n) = -leadingInteger n - if KeepsBits n then 0 else 1 := by
  have unit : (2 ^ surplusBits n : ℤ).sign = 1 := Int.sign_eq_one_of_pos (by positivity)
  rw [leadingInteger, surplusBits_neg, Int.neg_ediv, unit]
  rfl

/-- A cut toward minus infinity is one toward plus infinity on the other side of zero. -/
theorem leadingBits_neg (n : ℤ) : leadingBits (-n) = -leadingBitsUp n := by
  rw [leadingBits_eq, surplusBits_neg, leadingInteger_neg, leadingBitsUp]
  ring

theorem leadingBitsUp_of_keepsBits (kept : KeepsBits n) : leadingBitsUp n = leadingBits n := by
  rw [leadingBitsUp, if_pos kept, add_zero, leadingBits_eq]

theorem leadingBitsUp_of_not_keepsBits (lost : ¬ KeepsBits n) :
    leadingBitsUp n = leadingBits n + 2 ^ surplusBits n := by
  rw [leadingBitsUp, if_neg lost, leadingBits_eq, add_one_mul]

theorem leadingBitsUp_eq_leadingBits_iff : leadingBitsUp n = leadingBits n ↔ KeepsBits n := by
  refine ⟨fun same => ?_, leadingBitsUp_of_keepsBits⟩
  by_contra lost
  have unit : (0 : ℤ) < 2 ^ surplusBits n := by positivity
  rw [leadingBitsUp_of_not_keepsBits lost] at same
  omega

theorem sign_leadingBitsUp (n : ℤ) : (leadingBitsUp n).sign = n.sign := by
  rw [← Int.neg_inj, ← Int.sign_neg, ← leadingBits_neg, (leadingBits_spec (-n)).1, Int.sign_neg]

end LeadingBits

/-! ## Signs of doubles -/

section Signs

protected theorem Binary64.neg_neg (y : Binary64) : y.neg.neg = y := by
  cases y with
  | nan => rfl
  | infinity negative | finite negative _ _ => simp only [neg, Bool.not_not]

theorem Binary64.neg_injective : Function.Injective neg :=
  Function.LeftInverse.injective Binary64.neg_neg

theorem Binary64.isFinite_neg (y : Binary64) : y.neg.isFinite = y.isFinite := by
  cases y <;> rfl

theorem Binary64.ofRatio_neg (negative : Bool) (num den : ℕ) :
    ofRatio (!negative) num den = (ofRatio negative num den).neg := by
  by_cases numerator : num = 0
  · rw [ofRatio, ofRatio, if_pos numerator, if_pos numerator]
    rfl
  · rw [ofRatio_eq numerator, ofRatio_eq numerator]
    split <;> split <;> rfl

theorem Binary64.ofInt_neg {n : ℤ} (nonzero : n ≠ 0) : ofInt (-n) = (ofInt n).neg := by
  have side : decide (-n < 0) = !decide (n < 0) := by
    rw [← decide_not]
    exact decide_eq_decide.mpr (by omega)
  rw [ofInt, ofInt, Int.natAbs_neg, side, ofRatio_neg]

protected theorem Binary64.neg_mul (x y : Binary64) : x.neg.mul y = (x.mul y).neg := by
  cases x with
  | nan => rfl
  | infinity s =>
    cases y with
    | nan => rfl
    | infinity t => simp only [neg, mul, Bool.not_bne]
    | finite t n f =>
      simp only [neg, mul, Bool.not_bne]
      split <;> rfl
  | finite s m e =>
    cases y with
    | nan => rfl
    | infinity t =>
      simp only [neg, mul, Bool.not_bne]
      split <;> rfl
    | finite t n f => simp only [neg, mul, Bool.not_bne, ofRatio_neg]

protected theorem Binary64.neg_div (x y : Binary64) : x.neg.div y = (x.div y).neg := by
  cases x with
  | nan => rfl
  | infinity s =>
    cases y with
    | nan | infinity _ => rfl
    | finite t n f => simp only [neg, div, Bool.not_bne]
  | finite s m e =>
    cases y with
    | nan => rfl
    | infinity t => simp only [neg, div, zero, Bool.not_bne]
    | finite t n f =>
      simp only [neg, div, Bool.not_bne, ofRatio_neg]
      split
      · split <;> rfl
      · rfl

end Signs

/-! ## Scaling by powers of ten -/

/-- A double multiplied or divided by a power of ten, if that can be done and the result is
finite. -/
def Binary64.scaled? (y : Binary64) (k : ℤ) : Option Binary64 :=
  let ten := ofInt 10
  let product? :=
    if k = 0 then some y
    else if 1 ≤ k ∧ k ≤ 308 then some (y.mul (ten.powNat k.toNat))
    else if -308 ≤ k ∧ k ≤ -1 then some (y.div (ten.powNat (-k).toNat))
    else none
  product?.filter isFinite

/-- The double that a decimal would have if bits were cut off toward plus infinity. -/
def Decimal.toBinary64Up? (x : Decimal) : Option Binary64 :=
  (Binary64.ofInt (leadingBitsUp x.coeff)).scaled? x.exp

/-- Whether the double of the negation of a decimal is the negated double, or both have none. Zero
is its own negation, and its double is the zero without a sign. -/
def Decimal.HasOppositeDouble (x : Decimal) : Prop :=
  if x.coeff = 0 then x.neg.toBinary64? = x.toBinary64?
  else x.neg.toBinary64? = x.toBinary64?.map .neg
deriving Decidable

section Scaling

variable {x : Decimal}

theorem Decimal.toBinary64?_eq_scaled? (x : Decimal) :
    x.toBinary64? = (Binary64.ofInt (leadingBits x.coeff)).scaled? x.exp :=
  rfl

theorem Binary64.scaled?_zero_eq_some_iff {y z : Binary64} :
    y.scaled? 0 = some z ↔ y = z ∧ y.isFinite := by
  have units : y.scaled? 0 = (some y).filter isFinite := rfl
  rw [units, Option.filter_eq_some_iff, Option.some_inj]
  exact and_congr_right fun same => by rw [same]

theorem Binary64.scaled?_neg (y : Binary64) (k : ℤ) : y.neg.scaled? k = (y.scaled? k).map neg := by
  have finite : isFinite ∘ neg = isFinite := funext isFinite_neg
  simp only [scaled?, Binary64.neg_mul, Binary64.neg_div]
  split
  · rw [← Option.map_some, Option.filter_map, finite]
  split
  · rw [← Option.map_some, Option.filter_map, finite]
  split
  · rw [← Option.map_some, Option.filter_map, finite]
  · rfl

/-- Negating a decimal negates the double that is cut off to the other side. -/
theorem Decimal.toBinary64?_neg (nonzero : x.coeff ≠ 0) :
    x.neg.toBinary64? = x.toBinary64Up?.map .neg := by
  have cut : leadingBitsUp x.coeff ≠ 0 := by
    rw [Ne, ← Int.sign_eq_zero_iff_zero, sign_leadingBitsUp, Int.sign_eq_zero_iff_zero]
    exact nonzero
  have leading : Binary64.ofInt (leadingBits x.neg.coeff) =
      (Binary64.ofInt (leadingBitsUp x.coeff)).neg := by
    rw [show x.neg.coeff = -x.coeff from rfl, leadingBits_neg, Binary64.ofInt_neg cut]
  rw [toBinary64?_eq_scaled?, leading, Binary64.scaled?_neg]
  rfl

theorem Decimal.neg_of_coeff_eq_zero (zero : x.coeff = 0) : x.neg = x :=
  Decimal.ext (by simp [neg, zero]) rfl

theorem Decimal.hasOppositeDouble_iff : x.HasOppositeDouble ↔ x.toBinary64Up? = x.toBinary64? := by
  rw [HasOppositeDouble]
  split
  next zero =>
    have kept : KeepsBits x.coeff := zero ▸ dvd_zero _
    rw [neg_of_coeff_eq_zero zero, toBinary64Up?, leadingBitsUp_of_keepsBits kept]
    exact Iff.rfl
  next nonzero =>
    rw [toBinary64?_neg nonzero]
    exact (Option.map_injective Binary64.neg_injective).eq_iff

theorem Decimal.hasOppositeDouble_of_keepsBits (kept : KeepsBits x.coeff) :
    x.HasOppositeDouble := by
  rw [hasOppositeDouble_iff, toBinary64Up?, leadingBitsUp_of_keepsBits kept,
    toBinary64?_eq_scaled?]

end Scaling

/-! ## Values -/

/-- The value of a finite double. -/
def Binary64.toRat? : Binary64 → Option ℚ
  | .finite negative m e => some (if negative then -(m * 2 ^ e) else m * 2 ^ e)
  | _ => none

/-- The value of the double of a decimal, if there is one. -/
def Decimal.doubleValue? (x : Decimal) : Option ℚ :=
  x.toBinary64?.bind Binary64.toRat?

/-- Whether an integer has at most 53 binary digits before the zeros at its end. -/
def HasFewBits (n : ℤ) : Prop :=
  ∃ k j : ℕ, k < 2 ^ 53 ∧ n.natAbs = k * 2 ^ j

section Values

variable {n k : ℤ} {y : Binary64} {negative : Bool} {num den : ℕ} {q : ℚ}

theorem Binary64.toRat?_neg (y : Binary64) : y.neg.toRat? = y.toRat?.map Neg.neg := by
  cases y with
  | nan | infinity _ => rfl
  | finite negative m e =>
    cases negative with
    | false => rfl
    | true => exact congrArg some (neg_neg _).symm

theorem Binary64.toRat?_ofRatio (numerator : num ≠ 0)
    (value : (ofRatio negative num den).toRat? = some q) :
    q = if negative then -roundedRatio num den else roundedRatio num den := by
  cases rounded : ofRatio negative num den with
  | finite negative' m e =>
    obtain ⟨rfl, same⟩ := eq_of_ofRatio_eq_finite numerator rounded
    rw [rounded, toRat?, same] at value
    exact (Option.some.inj value).symm
  | nan | infinity _ =>
    rw [rounded] at value
    cases value

/-- The magnitude of the integer of leading digits, if there is a digit after them. -/
theorem le_leadingInteger (positive : 0 < n) (surplus : surplusBits n ≠ 0) :
    2 ^ 52 ≤ leadingInteger n := by
  have first : (2 : ℤ) ^ n.natAbs.log2 ≤ n := by
    have : 2 ^ n.natAbs.log2 ≤ n.natAbs := Nat.log2_self_le (by omega)
    zify at this
    rwa [abs_of_pos positive] at this
  have digits : n.natAbs.log2 = 52 + surplusBits n := by
    rw [surplusBits] at surplus ⊢
    omega
  rw [leadingInteger, Int.le_ediv_iff_mul_le (by positivity), ← pow_add, ← digits]
  exact first

theorem natAbs_leadingInteger_le (n : ℤ) : (leadingInteger n).natAbs ≤ 2 ^ 53 := by
  have unit : (0 : ℤ) < 2 ^ surplusBits n := by positivity
  have below : (n.natAbs : ℤ) < 2 ^ 53 * 2 ^ surplusBits n := by
    rw [← pow_add]
    have : n.natAbs < 2 ^ (53 + surplusBits n) :=
      Nat.lt_log2_self.trans_le (Nat.pow_le_pow_right (by decide) (by rw [surplusBits]; omega))
    exact_mod_cast this
  have high : leadingInteger n < 2 ^ 53 := (Int.ediv_lt_iff_lt_mul unit).mpr (by omega)
  have low : -2 ^ 53 ≤ leadingInteger n :=
    (Int.le_ediv_iff_mul_le unit).mpr (by rw [Int.neg_mul]; omega)
  omega

theorem hasFewBits_leadingBits (n : ℤ) : HasFewBits (leadingBits n) := by
  have magnitude : (leadingBits n).natAbs = (leadingInteger n).natAbs * 2 ^ surplusBits n := by
    rw [leadingBits_eq, Int.natAbs_mul, Int.natAbs_pow]
    rfl
  -- Of a negative integer the cut can carry into a 54th bit, and then the other 53 are zeros.
  rcases (natAbs_leadingInteger_le n).eq_or_lt with power | few
  · exact ⟨2 ^ 52, surplusBits n + 1, by decide, by rw [magnitude, power]; ring⟩
  · exact ⟨_, _, few, magnitude⟩

theorem hasFewBits_leadingBitsUp (n : ℤ) : HasFewBits (leadingBitsUp n) := by
  have few := hasFewBits_leadingBits (-n)
  rwa [leadingBits_neg, HasFewBits, Int.natAbs_neg] at few

/-- An integer with few bits is the value of its double, if that is finite. -/
theorem HasFewBits.exists_ofInt (few : HasFewBits n) (nonzero : n ≠ 0)
    (finite : (Binary64.ofInt n).isFinite) :
    ∃ m e, Binary64.ofInt n = .finite (n < 0) m e ∧ m ≠ 0 ∧ (m : ℚ) * 2 ^ e = n.natAbs := by
  obtain ⟨k, j, fits, magnitude⟩ := few
  have numerator : n.natAbs ≠ 0 := Int.natAbs_ne_zero.mpr nonzero
  have ratio : (n.natAbs : ℚ) / (1 : ℕ) = n.natAbs := by rw [Nat.cast_one, div_one]
  have value : (n.natAbs : ℚ) / (1 : ℕ) = k * 2 ^ (j : ℤ) := by
    rw [ratio, magnitude, zpow_natCast]
    push_cast
    rfl
  have exact := roundedRatio_exact numerator one_ne_zero value fits (by omega)
  cases rounded : Binary64.ofInt n with
  | finite negative m e =>
    obtain ⟨rfl, same⟩ := Binary64.eq_of_ofRatio_eq_finite numerator rounded
    rw [exact, ratio] at same
    exact ⟨m, e, rfl, significand_ne_zero same (by exact_mod_cast numerator), same⟩
  | nan | infinity _ =>
    rw [rounded] at finite
    cases finite

/-- Integers with few bits are told apart by their doubles. -/
theorem HasFewBits.eq_of_ofInt_eq {n' : ℤ} (few : HasFewBits n) (few' : HasFewBits n')
    (nonzero : n ≠ 0) (nonzero' : n' ≠ 0) (same : Binary64.ofInt n = .ofInt n')
    (finite : (Binary64.ofInt n').isFinite) : n = n' := by
  obtain ⟨m, e, double, -, value⟩ := few.exists_ofInt nonzero (same ▸ finite)
  obtain ⟨m', e', double', -, value'⟩ := few'.exists_ofInt nonzero' finite
  rw [double, double', Binary64.finite.injEq, decide_eq_decide] at same
  obtain ⟨sign, rfl, rfl⟩ := same
  have magnitude : n.natAbs = n'.natAbs := by exact_mod_cast value.symm.trans value'
  omega

end Values

/-- Whether scaling integers by a power of ten is rounding their products with one number. -/
def Binary64.ScalesBy (k : ℤ) (scale : ℚ) : Prop :=
  ∀ n : ℤ, n ≠ 0 → HasFewBits n → (ofInt n).isFinite →
    ∃ num den : ℕ, num ≠ 0 ∧ den ≠ 0 ∧ (num : ℚ) / den = n.natAbs * scale ∧
      (ofInt n).scaled? k = (some (ofRatio (n < 0) num den)).filter isFinite

section Scales

variable {k : ℤ}

theorem Binary64.scalesBy_zero : ScalesBy 0 1 := fun n nonzero _ _ =>
  ⟨n.natAbs, 1, Int.natAbs_ne_zero.mpr nonzero, one_ne_zero, by simp, rfl⟩

theorem Binary64.exists_scalesBy_of_pos (least : 1 ≤ k) (most : k ≤ 308) :
    ∃ scale : ℚ, (2 : ℚ) ^ (-1028 : ℤ) ≤ scale ∧ ScalesBy k scale := by
  obtain ⟨m, e, power, right, low, -⟩ := powNat_ten (k := k.toNat) (by omega)
  refine ⟨m * 2 ^ e, ?_, fun n nonzero few finite => ?_⟩
  · have ten : (1 : ℚ) ≤ 10 ^ k.toNat := one_le_pow₀ (by norm_num)
    have half : (2 : ℚ) ^ (-1028 : ℤ) ≤ 2 ^ (-1 : ℤ) :=
      zpow_le_zpow_right₀ one_le_two (by decide)
    rw [zpow_neg_one] at half
    linarith
  · obtain ⟨d, f, double, left, value⟩ := few.exists_ofInt nonzero finite
    obtain ⟨num, den, numerator, denominator, ratio, product⟩ :=
      mul_eq_ofRatio (n < 0) false left f right e
    refine ⟨num, den, numerator, denominator, by rw [ratio, value], ?_⟩
    have tens : k ≠ 0 := by omega
    have upward : 1 ≤ k ∧ k ≤ 308 := ⟨least, most⟩
    simp only [scaled?, if_neg tens, if_pos upward, power, double, product, Bool.bne_false]

theorem Binary64.exists_scalesBy_of_neg (least : -308 ≤ k) (most : k ≤ -1) :
    ∃ scale : ℚ, (2 : ℚ) ^ (-1028 : ℤ) ≤ scale ∧ ScalesBy k scale := by
  obtain ⟨m, e, power, right, -, high⟩ := powNat_ten (k := (-k).toNat) (by omega)
  have positive : (0 : ℚ) < m * 2 ^ e := by positivity
  refine ⟨(m * 2 ^ e)⁻¹, ?_, fun n nonzero few finite => ?_⟩
  · -- The power of ten by groups of three digits, each less than `2 ^ 10`.
    have bounded : (m : ℚ) * 2 ^ e ≤ 2 ^ 1028 := by
      calc (m : ℚ) * 2 ^ e ≤ 2 * 10 ^ (-k).toNat := high
        _ ≤ 2 * 10 ^ (2 + 3 * 102) := by
          gcongr
          · norm_num
          · omega
        _ = 200 * 1000 ^ 102 := by rw [pow_add, pow_mul]; norm_num
        _ ≤ 2 ^ 8 * (2 ^ 10) ^ 102 := by gcongr <;> norm_num
        _ = 2 ^ 1028 := by rw [← pow_mul, ← pow_add]
    rw [show (-1028 : ℤ) = -(1028 : ℕ) from rfl, zpow_neg, zpow_natCast]
    gcongr
  · obtain ⟨d, f, double, left, value⟩ := few.exists_ofInt nonzero finite
    obtain ⟨num, den, numerator, denominator, ratio, quotient⟩ :=
      div_eq_ofRatio (n < 0) false left f right e
    refine ⟨num, den, numerator, denominator, by rw [ratio, value, div_eq_mul_inv], ?_⟩
    have tens : k ≠ 0 := by omega
    have upward : ¬ (1 ≤ k ∧ k ≤ 308) := by omega
    have downward : -308 ≤ k ∧ k ≤ -1 := ⟨least, most⟩
    simp only [scaled?, if_neg tens, if_neg upward, if_pos downward, power, double, quotient,
      Bool.bne_false]

/-- Each power of ten scales integers by one positive number, which is not too small. -/
theorem Binary64.exists_scalesBy (least : -308 ≤ k) (most : k ≤ 308) :
    ∃ scale : ℚ, (2 : ℚ) ^ (-1028 : ℤ) ≤ scale ∧ ScalesBy k scale := by
  obtain rfl | upward | downward : k = 0 ∨ 1 ≤ k ∨ k ≤ -1 := by omega
  · exact ⟨1, zpow_le_one_of_nonpos₀ one_le_two (by decide), scalesBy_zero⟩
  · exact exists_scalesBy_of_pos upward most
  · exact exists_scalesBy_of_neg least downward

end Scales

section Neighbours

variable {x : Decimal} {n k : ℤ} {y : Binary64} {q r scale : ℚ}

theorem leadingBits_pos (positive : 0 < n) : 0 < leadingBits n := by
  rw [← Int.sign_eq_one_iff_pos, (leadingBits_spec n).1]
  exact Int.sign_eq_one_of_pos positive

theorem leadingBits_le_up (n : ℤ) : leadingBits n ≤ leadingBitsUp n := by
  by_cases kept : KeepsBits n
  · rw [leadingBitsUp_of_keepsBits kept]
  · rw [leadingBitsUp_of_not_keepsBits kept]
    have unit : (0 : ℤ) < 2 ^ surplusBits n := by positivity
    omega

/-- The two ways to cut digits off differ in the last of 53 bits. -/
theorem leadingBitsUp_close (positive : 0 < n) (lost : ¬ KeepsBits n) :
    2 ^ 53 ≤ leadingBits n ∧ 2 ^ 52 * (leadingBitsUp n - leadingBits n) ≤ leadingBits n := by
  have surplus : surplusBits n ≠ 0 := by
    intro none_cut
    rw [KeepsBits, none_cut] at lost
    exact lost (one_dvd n)
  have digits := le_leadingInteger positive surplus
  have two : (2 : ℤ) ≤ 2 ^ surplusBits n := le_self_pow₀ one_le_two surplus
  rw [leadingBitsUp_of_not_keepsBits lost, leadingBits_eq, add_sub_cancel_left]
  constructor
  · calc (2 : ℤ) ^ 53 = 2 ^ 52 * 2 := rfl
      _ ≤ leadingInteger n * 2 ^ surplusBits n := by gcongr
  · gcongr

/-- The value of a positive integer with few bits that has been scaled. -/
theorem Binary64.ScalesBy.exists_toRat? (scales : ScalesBy k scale) (positive : 0 < n)
    (few : HasFewBits n) (finite : (ofInt n).isFinite)
    (value : ((ofInt n).scaled? k).bind toRat? = some q) :
    ∃ num den : ℕ, num ≠ 0 ∧ den ≠ 0 ∧ (num : ℚ) / den = n * scale ∧ q = roundedRatio num den := by
  obtain ⟨num, den, numerator, denominator, ratio, rounded⟩ := scales n positive.ne' few finite
  have magnitude : (n.natAbs : ℚ) = n := by
    rw [Nat.cast_natAbs, abs_of_pos positive]
  obtain ⟨y, view, same⟩ := Option.bind_eq_some_iff.mp value
  rw [rounded] at view
  obtain ⟨view, -⟩ := Option.filter_eq_some_iff.mp view
  cases view
  have sign := toRat?_ofRatio numerator same
  rw [decide_eq_false positive.not_gt] at sign
  exact ⟨num, den, numerator, denominator, by rw [ratio, magnitude], sign⟩

/-- The value of the double of a negation, in terms of the cut to the other side. -/
theorem Decimal.doubleValue?_neg (nonzero : x.coeff ≠ 0) :
    x.neg.doubleValue? = (x.toBinary64Up?.bind Binary64.toRat?).map Neg.neg := by
  have values : Binary64.toRat? ∘ Binary64.neg = Option.map Neg.neg ∘ Binary64.toRat? :=
    funext Binary64.toRat?_neg
  rw [doubleValue?, toBinary64?_neg nonzero, Option.bind_map, values, Option.map_bind]

/-- Scaled and rounded, both ways to cut digits off lead to neighbouring values. -/
theorem roundedRatio_leadingBitsUp {num den num' den' : ℕ} (positive : 0 < n)
    (size : (2 : ℚ) ^ (-1028 : ℤ) ≤ scale) (numerator : num ≠ 0) (denominator : den ≠ 0)
    (ratio : (num : ℚ) / den = leadingBits n * scale) (numerator' : num' ≠ 0)
    (denominator' : den' ≠ 0) (ratio' : (num' : ℚ) / den' = leadingBitsUp n * scale) :
    roundedRatio num den ≤ roundedRatio num' den' ∧
      2 ^ 50 * (roundedRatio num' den' - roundedRatio num den) ≤ roundedRatio num den := by
  have unit : 0 < scale := lt_of_lt_of_le (by positivity) size
  have le : (num : ℚ) / den ≤ num' / den' := by
    rw [ratio, ratio']
    gcongr
    exact_mod_cast leadingBits_le_up n
  refine ⟨roundedRatio_le numerator denominator numerator' denominator' le, ?_⟩
  by_cases kept : KeepsBits n
  · have same : (num' : ℚ) / den' ≤ num / den := by
      rw [ratio, ratio', leadingBitsUp_of_keepsBits kept]
    have above := roundedRatio_le numerator' denominator' numerator denominator same
    linarith [roundedRatio_nonneg num den]
  · -- With a bit lost the ratio is above the subnormal doubles, so that rounding it costs little.
    obtain ⟨large, step⟩ := leadingBitsUp_close positive kept
    have large' : (2 : ℚ) ^ (53 : ℤ) ≤ leadingBits n := by exact_mod_cast large
    have step' : (2 : ℚ) ^ 52 * (leadingBitsUp n - leadingBits n) ≤ leadingBits n := by
      exact_mod_cast step
    refine roundedRatio_close numerator denominator numerator' denominator' ?_ le ?_
    · calc (2 : ℚ) ^ (-1022 : ℤ) ≤ 2 ^ (53 + -1028 : ℤ) :=
            zpow_le_zpow_right₀ one_le_two (by decide)
        _ = 2 ^ (53 : ℤ) * 2 ^ (-1028 : ℤ) := zpow_add₀ two_ne_zero _ _
        _ ≤ leadingBits n * scale := by gcongr
        _ = num / den := ratio.symm
    · rw [ratio, ratio', ← sub_mul, ← mul_assoc]
      gcongr

/-- The double of a positive decimal and the opposite one of its negation, which is the greater one,
but not by much. -/
theorem Decimal.doubleValue?_neg_of_pos (positive : 0 < x.coeff) (here : x.doubleValue? = some q)
    (there : x.neg.doubleValue? = some r) : 0 ≤ q ∧ q ≤ -r ∧ 2 ^ 50 * (-r - q) ≤ q := by
  obtain ⟨y, view, -⟩ := Option.bind_eq_some_iff.mp here
  obtain ⟨z, view', -⟩ := Option.bind_eq_some_iff.mp there
  obtain ⟨⟨least, finite⟩, most⟩ := hasDouble_of_toBinary64? view
  obtain ⟨⟨-, finite'⟩, -⟩ := hasDouble_of_toBinary64? view'
  have positive' := (leadingBits_pos positive).trans_le (leadingBits_le_up x.coeff)
  rw [show x.neg.coeff = -x.coeff from rfl, leadingBits_neg, Binary64.ofInt_neg positive'.ne',
    Binary64.isFinite_neg] at finite'
  rw [doubleValue?_neg positive.ne', Option.map_eq_some_iff] at there
  obtain ⟨up, value, rfl⟩ := there
  obtain ⟨scale, size, scales⟩ := Binary64.exists_scalesBy least most
  obtain ⟨num, den, numerator, denominator, ratio, rfl⟩ :=
    scales.exists_toRat? (leadingBits_pos positive) (hasFewBits_leadingBits _) finite here
  obtain ⟨num', den', numerator', denominator', ratio', rfl⟩ :=
    scales.exists_toRat? positive' (hasFewBits_leadingBitsUp _) finite' value
  rw [Rat.neg_neg]
  exact ⟨roundedRatio_nonneg num den, roundedRatio_leadingBitsUp positive size numerator
    denominator ratio numerator' denominator' ratio'⟩

/-- The double of the negation of a decimal never lies above the opposite double, and not far below
it. -/
theorem Decimal.doubleValue?_neg_close (here : x.doubleValue? = some q)
    (there : x.neg.doubleValue? = some r) : r ≤ -q ∧ 2 ^ 50 * (-q - r) ≤ min |q| |r| := by
  rcases lt_trichotomy x.coeff 0 with negative | zero | positive
  · -- Here the number that is cut toward zero is the negation.
    have opposite : x.neg.neg.doubleValue? = some q := by rwa [Decimal.neg_neg]
    obtain ⟨nonnegative, le, close⟩ :=
      doubleValue?_neg_of_pos (show 0 < x.neg.coeff from neg_pos.mpr negative) there opposite
    have greater : r ≤ |q| := le.trans (neg_le_abs q)
    rw [abs_of_nonneg nonnegative, min_eq_right greater]
    constructor <;> linarith
  · have value : x.doubleValue? = some 0 := by
      rw [doubleValue?, toBinary64?_of_coeff_eq_zero zero, Option.bind_some, Binary64.zero,
        Binary64.toRat?, Nat.cast_zero, zero_mul]
      rfl
    rw [neg_of_coeff_eq_zero zero] at there
    cases value.symm.trans here
    cases value.symm.trans there
    norm_num
  · obtain ⟨nonnegative, le, close⟩ := doubleValue?_neg_of_pos positive here there
    have greater : q ≤ |r| := le.trans (neg_le_abs r)
    rw [abs_of_nonneg nonnegative, min_eq_left greater]
    constructor <;> linarith

/-- Without a power of ten nothing makes up for a lost bit. -/
theorem Decimal.keepsBits_of_hasOppositeDouble (units : x.exp = 0) (view : x.toBinary64? = some y)
    (opposite : x.HasOppositeDouble) : KeepsBits x.coeff := by
  by_cases zero : x.coeff = 0
  · exact zero ▸ dvd_zero _
  have up : x.toBinary64Up? = some y := (hasOppositeDouble_iff.mp opposite).trans view
  rw [toBinary64Up?, units] at up
  rw [toBinary64?_eq_scaled?, units] at view
  obtain ⟨rfl, finite⟩ := Binary64.scaled?_zero_eq_some_iff.mp view
  obtain ⟨same, -⟩ := Binary64.scaled?_zero_eq_some_iff.mp up
  have nonzero : ∀ {n : ℤ}, n.sign = x.coeff.sign → n ≠ 0 := fun sign => by
    rw [Ne, ← Int.sign_eq_zero_iff_zero, sign, Int.sign_eq_zero_iff_zero]
    exact zero
  rw [← leadingBitsUp_eq_leadingBits_iff]
  exact (hasFewBits_leadingBitsUp _).eq_of_ofInt_eq (hasFewBits_leadingBits _)
    (nonzero (sign_leadingBitsUp _)) (nonzero (leadingBits_spec _).1) same finite

end Neighbours

/-! ## Forms -/

/-- The characters of a text after the minus sign that it may begin with. -/
def unsignedText (text : String) : List Char :=
  text.toList.dropWhile (· = '-')

/-- Whether two stored forms of numbers are those of opposite integers or opposite doubles, or texts
that differ in their signs only. -/
inductive Json.SameDigits : Json → Json → Prop
  | int (n : ℤ) : SameDigits (.int n) (.int (-n))
  | float (y : Binary64) : SameDigits (.float y) (.float y.neg)
  | str {s t : String} (digits : unsignedText s = unsignedText t) : SameDigits (.str s) (.str t)

section Forms

variable {x : Decimal} {n : ℤ}

/-- The range of 64 bits has one integer without an opposite. -/
theorem inInt64_neg_iff (apart : |n| ≠ 2 ^ 63) : inInt64 (-n) ↔ inInt64 n := by
  have ends : n ≠ 2 ^ 63 ∧ n ≠ -2 ^ 63 := by
    constructor <;> rintro rfl <;> exact apart rfl
  rw [inInt64_iff, inInt64_iff]
  omega

theorem Decimal.toInt64?_neg (apart : |x.toRat| ≠ 2 ^ 63) :
    x.neg.toInt64? = x.toInt64?.map Neg.neg := by
  by_cases integer : ∃ k : ℤ, x.toRat = k
  · obtain ⟨k, value⟩ := integer
    have value' : x.neg.toRat = (-k : ℤ) := by rw [toRat_neg, value, Int.cast_neg]
    have inside : |k| ≠ 2 ^ 63 := by
      rw [value] at apart
      exact_mod_cast apart
    rw [toInt64?_of_toRat_eq value, toInt64?_of_toRat_eq value']
    simp only [inInt64_neg_iff inside]
    split <;> rfl
  · have fraction : ∀ k : ℤ, x.toRat ≠ k := fun k value => integer ⟨k, value⟩
    have fraction' : ∀ k : ℤ, x.neg.toRat ≠ k := fun k value =>
      fraction (-k) (by rw [Int.cast_neg, ← value, toRat_neg, Rat.neg_neg])
    rw [toInt64?_of_forall_ne fraction, toInt64?_of_forall_ne fraction']
    rfl

theorem Decimal.ofDouble_not (negative : Bool) (m : ℕ) (e : ℤ) :
    ofDouble (!negative) m e = (ofDouble negative m e).neg := by
  rw [ofDouble, ofDouble]
  split
  · rfl
  · cases negative with
    | false => rfl
    | true => exact Decimal.neg_neg.symm

theorem unsignedText_toString (n : ℤ) :
    unsignedText (toString n) = unsignedText (toString n.natAbs) := by
  rw [Int.toString_eq_repr, Int.repr_eq_if]
  split
  next nonnegative =>
    rw [show n.toNat = n.natAbs by omega]
    rfl
  next negative =>
    rw [show (-n).toNat = n.natAbs by omega, unsignedText, String.toList_append]
    rfl

theorem unsignedText_toString_neg (n : ℤ) :
    unsignedText (toString (-n)) = unsignedText (toString n) := by
  rw [unsignedText_toString, Int.natAbs_neg, unsignedText_toString n]

theorem Decimal.numeral_neg (x : Decimal) : x.neg.numeral.unsigned = x.numeral.unsigned := by
  have padded : x.neg.padded = x.padded := by
    rw [Decimal.padded, Decimal.padded, show x.neg.coeff.natAbs = x.coeff.natAbs from
      Int.natAbs_neg _]
    rfl
  simp only [Numeral.unsigned, numeral, fraction?, padded]
  rfl

/-- The text of a decimal without its sign is the unsigned numeral. -/
theorem Decimal.unsignedText_toString (x : Decimal) :
    unsignedText (toString x) = x.numeral.unsigned.chars.dropWhile (· = '-') := by
  have chars : x.toChars = (SignMark.ofInt x.coeff).chars ++ x.numeral.unsigned.chars := by
    rw [toChars_eq, Numeral.chars, Numeral.mantissa, List.append_assoc]
    rfl
  rw [unsignedText, show toString x = .ofList x.toChars from rfl, String.toList_ofList, chars,
    SignMark.ofInt]
  split <;> rfl

theorem Decimal.unsignedText_neg (x : Decimal) :
    unsignedText (toString x.neg) = unsignedText (toString x) := by
  rw [unsignedText_toString, numeral_neg, unsignedText_toString]

/-- Whether the text and the stored form of a decimal differ from those of its negation in the sign
only. -/
structure Decimal.HasOppositeForms (x : Decimal) : Prop where
  text : unsignedText (Number.decimal x).neg.toText = unsignedText (Number.decimal x).toText
  stored : Json.SameDigits (Number.decimal x).toJson (Number.decimal x).neg.toJson

theorem Decimal.hasOppositeForms_of_toInt64? (integer : x.toInt64? = some n)
    (opposite : x.neg.toInt64? = some (-n)) : x.HasOppositeForms := by
  obtain ⟨text, form⟩ := Number.forms_of_toInt64? integer
  obtain ⟨text', form'⟩ := Number.forms_of_toInt64? opposite
  constructor
  · rw [text, show (Number.decimal x).neg.toText = _ from text', unsignedText_toString_neg]
  · rw [form, show (Number.decimal x).neg.toJson = _ from form']
    exact .int n

/-- Of a decimal that is no integer of 64 bits, the forms come from the double. -/
theorem Decimal.HasOppositeDouble.hasOppositeForms (opposite : x.HasOppositeDouble)
    (fraction : x.toInt64? = none) (fraction' : x.neg.toInt64? = none) : x.HasOppositeForms := by
  rw [HasOppositeDouble, if_neg (coeff_ne_zero_of_toInt64? fraction)] at opposite
  cases view : x.toBinary64? with
  | none =>
    rw [view, Option.map_none] at opposite
    obtain ⟨text, form⟩ := Number.forms_of_no_double fraction view
    obtain ⟨text', form'⟩ := Number.forms_of_no_double fraction' opposite
    constructor
    · rw [text, show (Number.decimal x).neg.toText = _ from text', unsignedText_neg]
    · rw [form, show (Number.decimal x).neg.toJson = _ from form']
      exact .str x.unsignedText_neg.symm
  | some y =>
    obtain ⟨negative, m, e, rfl⟩ := exists_of_toBinary64? view
    rw [view, Option.map_some] at opposite
    obtain ⟨text, form⟩ := Number.forms_of_double fraction view
    obtain ⟨text', form'⟩ := Number.forms_of_double fraction' opposite
    constructor
    · rw [text, show (Number.decimal x).neg.toText = _ from text', ofDouble_not, unsignedText_neg]
    · rw [form, show (Number.decimal x).neg.toJson = _ from form']
      exact .float _

/-- Stored doubles with the same digits are opposite. -/
theorem Decimal.hasOppositeDouble_of_sameDigits (fraction : x.toInt64? = none)
    (fraction' : x.neg.toInt64? = none)
    (same : Json.SameDigits (Number.decimal x).toJson (Number.decimal x.neg).toJson) :
    x.HasOppositeDouble := by
  rw [HasOppositeDouble, if_neg (coeff_ne_zero_of_toInt64? fraction)]
  cases view : x.toBinary64? with
  | none =>
    rw [(Number.forms_of_no_double fraction view).2] at same
    cases view' : x.neg.toBinary64? with
    | none => rfl
    | some z =>
      obtain ⟨negative, m, e, rfl⟩ := exists_of_toBinary64? view'
      rw [(Number.forms_of_double fraction' view').2] at same
      cases same
  | some y =>
    obtain ⟨negative, m, e, rfl⟩ := exists_of_toBinary64? view
    rw [(Number.forms_of_double fraction view).2] at same
    cases view' : x.neg.toBinary64? with
    | none =>
      rw [(Number.forms_of_no_double fraction' view').2] at same
      cases same
    | some z =>
      obtain ⟨negative', m', e', rfl⟩ := exists_of_toBinary64? view'
      rw [(Number.forms_of_double fraction' view').2] at same
      cases same
      rfl

/-- But for the ends of the range of 64 bits, a decimal and its negation have forms with the same
digits if they are integers of 64 bits or their doubles are opposite, and only then. -/
theorem Decimal.forms_neg (apart : |x.toRat| ≠ 2 ^ 63) :
    (x.toInt64?.isSome ∨ x.HasOppositeDouble → x.HasOppositeForms) ∧
      (Json.SameDigits (Number.decimal x).toJson (Number.decimal x).neg.toJson →
        x.toInt64?.isSome ∨ x.HasOppositeDouble) := by
  have opposite := toInt64?_neg apart
  cases integer : x.toInt64? with
  | some n =>
    rw [integer, Option.map_some] at opposite
    exact ⟨fun _ => hasOppositeForms_of_toInt64? integer opposite, fun _ => .inl rfl⟩
  | none =>
    rw [integer, Option.map_none] at opposite
    refine ⟨fun shown => ?_, fun same => .inr ?_⟩
    · rcases shown with found | double
      · cases found
      · exact double.hasOppositeForms integer opposite
    · exact hasOppositeDouble_of_sameDigits integer opposite same

end Forms

/-! ## A number and its negation -/

section Negation

/-- The doubles and the forms of a number and of its negation.

The integer of the leading bits is negated if no bit after it is lost, and is one less otherwise. If
no bit is lost the doubles are opposite. In general they are just if both ways to cut the bits off
lead to one double, and without a power of ten just if no bit is lost. The double of the negation
never lies above the opposite one, nor far below it.

The stored forms have the same digits for integers of 64 bits and for numbers with opposite doubles,
and for no others, and then the texts have the same digits too. This leaves out the one integer of
64 bits of which the negation has more, and that negation. -/
theorem Number.opposite_doubles (x : Decimal) :
    (leadingInteger (-x.coeff) = -leadingInteger x.coeff - if KeepsBits x.coeff then 0 else 1) ∧
    (KeepsBits x.coeff → x.HasOppositeDouble) ∧
    (x.HasOppositeDouble ↔ x.toBinary64Up? = x.toBinary64?) ∧
    (x.exp = 0 → x.toBinary64?.isSome → (x.HasOppositeDouble ↔ KeepsBits x.coeff)) ∧
    (∀ q r, x.doubleValue? = some q → x.neg.doubleValue? = some r →
      r ≤ -q ∧ 2 ^ 50 * (-q - r) ≤ min |q| |r|) ∧
    (|x.toRat| ≠ 2 ^ 63 →
      (Json.SameDigits (decimal x).toJson (decimal x).neg.toJson ↔
        x.toInt64?.isSome ∨ x.HasOppositeDouble) ∧
      (x.toInt64?.isSome ∨ x.HasOppositeDouble →
        unsignedText (decimal x).neg.toText = unsignedText (decimal x).toText)) := by
  refine ⟨leadingInteger_neg _, Decimal.hasOppositeDouble_of_keepsBits,
    Decimal.hasOppositeDouble_iff, fun units found => ?_, fun q r => Decimal.doubleValue?_neg_close,
    fun apart => ?_⟩
  · obtain ⟨y, view⟩ := Option.isSome_iff_exists.mp found
    exact ⟨Decimal.keepsBits_of_hasOppositeDouble units view,
      Decimal.hasOppositeDouble_of_keepsBits⟩
  · obtain ⟨alike, only⟩ := Decimal.forms_neg apart
    exact ⟨⟨only, fun shown => (alike shown).stored⟩, fun shown => (alike shown).text⟩

/-- A fraction with 61 bits that keeps them all, and one with 165 bits that does not: the double of
its negation lies below the opposite one. -/
theorem Number.opposite_doubles_of_fractions :
    let kept := Decimal.ofScaled (2 ^ 60) (-1)
    let lost := Decimal.div (.ofInt 1) (.ofInt 3)
    (KeepsBits kept.coeff ∧ kept.HasOppositeDouble ∧ |kept.toRat| ≠ 2 ^ 63 ∧
      unsignedText (decimal kept).neg.toText = unsignedText (decimal kept).toText) ∧
    ¬ KeepsBits lost.coeff ∧ ∃ q r, lost.doubleValue? = some q ∧ lost.neg.doubleValue? = some r ∧
      r ≤ -q ∧ 2 ^ 50 * (-q - r) ≤ min |q| |r| := by
  intro kept lost
  obtain ⟨-, double, -, -, -, forms⟩ := opposite_doubles kept
  have bits : KeepsBits kept.coeff := by decide +kernel
  have apart : |kept.toRat| ≠ 2 ^ 63 := by
    rw [Decimal.toRat_ofScaled]
    norm_num
  obtain ⟨-, -, -, -, close, -⟩ := opposite_doubles lost
  have view : lost.toBinary64? = some (.finite false 6004799503160661 (-54)) := by decide +kernel
  have view' : lost.neg.toBinary64? = some (.finite true 6004799503160662 (-54)) := by
    decide +kernel
  have here : lost.doubleValue? = some (((6004799503160661 : ℕ) : ℚ) * 2 ^ (-54 : ℤ)) := by
    rw [Decimal.doubleValue?, view]
    rfl
  have there : lost.neg.doubleValue? = some (-(((6004799503160662 : ℕ) : ℚ) * 2 ^ (-54 : ℤ))) := by
    rw [Decimal.doubleValue?, view']
    rfl
  exact ⟨⟨bits, double bits, apart, (forms apart).2 (.inr (double bits))⟩, by decide +kernel,
    _, _, here, there, close _ _ here there⟩

/-- A third has another double, text and stored form than its negation, but for the sign; and an
integer of 54 bits has another double. -/
theorem Number.not_opposite_double_third :
    let third := Decimal.div (.ofInt 1) (.ofInt 3)
    let odd := Decimal.ofInt (2 ^ 53 + 1)
    (third.toBinary64? = some (.finite false 6004799503160661 (-54)) ∧
      third.neg.toBinary64? = some (.finite true 6004799503160662 (-54)) ∧
      (decimal third).toText = "0.3333333333333333" ∧
      (decimal third).neg.toText = "-0.33333333333333337") ∧
    odd.toBinary64?.isSome ∧ ¬ odd.HasOppositeDouble ∧
      leadingInteger (-odd.coeff) ≠ -leadingInteger odd.coeff := by
  decide +kernel

end Negation

end Spreadsheet
