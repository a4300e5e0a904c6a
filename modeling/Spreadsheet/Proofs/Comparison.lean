import Mathlib.Data.List.Lex
import Mathlib.Data.Sum.Order
import Spreadsheet.Proofs.Broadcasting
import Spreadsheet.Proofs.ExactArithmetic

/-!
# Comparison of scalars

Every order that a comparison looks at turns around when its two sides are swapped, also where a
side is null, infinite or NaN (`Value.compareScalars?_swap`), so a relation holds from one side if
the reverse relation holds from the other (`Value.scalarRelates_reverse`).

Truth values, decimals and texts have a place in one linear order, the numbers below the texts
(`Value.rank`), and comparing them is comparing their ranks (`Value.relates_eq_rank`). So on these
comparison has the laws of a linear order, up to values of one rank (`Value.comparison_laws`). Null
has no rank of its own: it takes the kind of the other side.
-/

namespace Spreadsheet

/-! ## Decimals and texts -/

/-- Decimals are ordered by their values. -/
theorem Decimal.compare_eq_cmp (x y : Decimal) : x.compare y = cmp x.toRat y.toRat := by
  have unit : (0 : ℚ) < 10 ^ min x.exp y.exp := by positivity
  rw [← inUnits_mul (min_le_left x.exp y.exp), ← inUnits_mul (min_le_right x.exp y.exp),
    cmp_mul_pos_right unit, Int.cast_strictMono.cmp_map_eq, cmp_eq_compare]
  rfl

/-- The code points of a text. -/
def codePoints (s : String) : List ℕ :=
  s.toList.map Char.toNat

theorem codePoints_injective : Function.Injective codePoints := by
  intro s t same
  exact String.toList_inj.mp (List.map_injective_iff.mpr (fun _ _ => Char.toNat_inj.mp) same)

theorem compares_compareLex (cs ds : List Char) :
    (List.compareLex (fun c d => compare c.toNat d.toNat) cs ds).Compares
      (cs.map Char.toNat) (ds.map Char.toNat) := by
  induction cs generalizing ds with
  | nil =>
    cases ds with
    | nil => rfl
    | cons d ds => exact List.nil_lt_cons _ _
  | cons c cs ih =>
    cases ds with
    | nil => exact List.nil_lt_cons _ _
    | cons d ds =>
      rw [List.compareLex_cons_cons, List.map_cons, List.map_cons]
      rcases lt_trichotomy c.toNat d.toNat with less | same | greater
      · rw [compare_lt_iff_lt.mpr less]
        exact List.cons_lt_cons_iff.mpr (.inl less)
      · have rest : StrictMono (List.cons d.toNat) :=
          fun _ _ less => List.cons_lt_cons_iff.mpr (.inr ⟨rfl, less⟩)
        rw [same, compare_eq_iff_eq.mpr rfl]
        exact rest.compares.mpr (ih ds)
      · rw [compare_gt_iff_gt.mpr greater]
        exact List.cons_lt_cons_iff.mpr (.inl greater)

/-- Texts are ordered by their code points. -/
theorem compares_compareText (s t : String) :
    (compareText s t).Compares (codePoints s) (codePoints t) :=
  compares_compareLex s.toList t.toList

/-! ## Swapping sides -/

section Swapping

theorem Decimal.compare_swap (x y : Decimal) : (x.compare y).swap = y.compare x := by
  rw [compare_eq_cmp, compare_eq_cmp, cmp_swap]

theorem compareText_swap (s t : String) : (compareText s t).swap = compareText t s := by
  have forth : (compareText s t).swap.Compares (codePoints t) (codePoints s) :=
    Ordering.compares_swap.mpr (compares_compareText s t)
  exact forth.inj (compares_compareText t s)

theorem Binary64.compare?_swap (x y : Binary64) :
    (x.compare? y).map Ordering.swap = y.compare? x := by
  cases x with
  | nan => cases y <;> rfl
  | infinity s =>
    cases y with
    | nan => rfl
    | infinity t => cases s <;> cases t <;> rfl
    | finite t n f => cases s <;> rfl
  | finite s m e =>
    cases y with
    | nan => rfl
    | infinity t => cases t <;> rfl
    | finite t n f =>
      rw [compare?, compare?, Option.map_some, min_comm]
      exact congrArg some Std.OrientedCmp.eq_swap.symm

theorem Number.compare?_swap (m n : Number) : (m.compare? n).map Ordering.swap = n.compare? m := by
  have doubles := Binary64.compare?_swap m.toBinary64 n.toBinary64
  cases m with
  | decimal x =>
    cases n with
    | decimal y => exact congrArg some (x.compare_swap y)
    | infinity _ | nan => exact doubles
  | infinity _ | nan => cases n <;> exact doubles

theorem Value.compareKinds?_swap (x y : Value) :
    (x.compareKinds? y).map Ordering.swap = y.compareKinds? x := by
  cases x with
  | null | error _ | array _ => cases y <;> rfl
  | bool a =>
    cases y with
    | null | error _ | array _ | text _ => rfl
    | bool b => cases a <;> cases b <;> rfl
    | number n => exact Number.compare?_swap (.ofBool a) n
  | number m =>
    cases y with
    | null | error _ | array _ | text _ => rfl
    | bool b => exact m.compare?_swap (.ofBool b)
    | number n => exact m.compare?_swap n
  | text s =>
    cases y with
    | null | error _ | array _ | bool _ | number _ => rfl
    | text t => exact congrArg some (compareText_swap s t)

variable {x y : Value}

theorem Value.null_compareScalars? (right : y ≠ .null) :
    null.compareScalars? y = y.nullBeside.compareKinds? y := by
  cases y with
  | null => exact absurd rfl right
  | bool _ | number _ | text _ | error _ | array _ => rfl

theorem Value.compareScalars?_null (left : x ≠ .null) :
    x.compareScalars? .null = x.compareKinds? x.nullBeside := by
  cases x with
  | null => exact absurd rfl left
  | bool _ | number _ | text _ | error _ | array _ => rfl

theorem Value.compareScalars?_of_ne_null (left : x ≠ .null) (right : y ≠ .null) :
    x.compareScalars? y = x.compareKinds? y := by
  cases x with
  | null => exact absurd rfl left
  | bool _ | number _ | text _ | error _ | array _ =>
    cases y with
    | null => exact absurd rfl right
    | bool _ | number _ | text _ | error _ | array _ => rfl

/-- The order of two scalars turns around when they are swapped. -/
theorem Value.compareScalars?_swap (x y : Value) :
    (x.compareScalars? y).map Ordering.swap = y.compareScalars? x := by
  by_cases left : x = .null
  · subst left
    by_cases right : y = .null
    · subst right
      rfl
    · rw [null_compareScalars? right, compareScalars?_null right, compareKinds?_swap]
  · by_cases right : y = .null
    · subst right
      rw [null_compareScalars? left, compareScalars?_null left, compareKinds?_swap]
    · rw [compareScalars?_of_ne_null left right, compareScalars?_of_ne_null right left,
        compareKinds?_swap]

theorem Relation.holds_reverse (r : Relation) (order : Option Ordering) :
    r.reverse.holds (order.map Ordering.swap) = r.holds order := by
  cases order with
  | none => cases r <;> rfl
  | some o => cases r <;> cases o <;> rfl

/-- A relation from one side is the reverse relation from the other. -/
theorem Value.scalarRelates_reverse (r : Relation) (x y : Value) :
    x.scalarRelates r y = y.scalarRelates r.reverse x := by
  rw [scalarRelates, scalarRelates, ← compareScalars?_swap x y, Relation.holds_reverse]

end Swapping

/-! ## Ranks -/

/-- Whether a value is a truth value, a decimal or a text. -/
inductive Value.IsRanked : Value → Prop
  | bool (b : Bool) : IsRanked (.bool b)
  | decimal (x : Decimal) : IsRanked (.number (.decimal x))
  | text (s : String) : IsRanked (.text s)

/-- The place of a truth value, a decimal or a text among all of them: truth values count as zero
and one, and every text stands above every number. -/
def Value.rank : Value → ℚ ⊕ₗ List ℕ
  | .bool b => toLex (.inl (if b then 1 else 0))
  | .number (.decimal x) => toLex (.inl x.toRat)
  | .text s => toLex (.inr (codePoints s))
  | _ => toLex (.inl 0)

/-- Whether a relation holds of two elements of a linear order. -/
def Relation.On {α : Type} [LinearOrder α] (r : Relation) (p q : α) : Prop :=
  match r with
  | .equal => p = q
  | .notEqual => p ≠ q
  | .less => p < q
  | .lessOrEqual => p ≤ q
  | .greater => q < p
  | .greaterOrEqual => q ≤ p

theorem Relation.holds_cmp {α : Type} [LinearOrder α] (r : Relation) (p q : α) :
    r.holds (some (cmp p q)) = true ↔ r.On p q := by
  cases r with
  | equal => exact decide_eq_true_iff.trans (cmp_eq_eq_iff p q)
  | notEqual => exact decide_eq_true_iff.trans (cmp_eq_eq_iff p q).not
  | less => exact decide_eq_true_iff.trans (cmp_eq_lt_iff p q)
  | lessOrEqual => exact decide_eq_true_iff.trans ((cmp_eq_gt_iff p q).not.trans not_lt)
  | greater => exact decide_eq_true_iff.trans (cmp_eq_gt_iff p q)
  | greaterOrEqual => exact decide_eq_true_iff.trans ((cmp_eq_lt_iff p q).not.trans not_lt)

section Ranks

variable {x y z : Value}

theorem Number.ofBool_eq (b : Bool) : ofBool b = .decimal (.ofInt (if b then 1 else 0)) := by
  cases b <;> decide

/-- Truth values are ordered as the numbers that they count as. -/
theorem Number.compare?_ofBool (a b : Bool) :
    (ofBool a).compare? (.ofBool b) = some (compare a b) := by
  cases a <;> cases b <;> decide

theorem Value.rank_bool (b : Bool) :
    (bool b).rank = toLex (.inl (Decimal.ofInt (if b then 1 else 0)).toRat) := by
  rw [rank, Decimal.toRat_ofInt]
  cases b <;> norm_num

theorem Number.compare?_decimal (d e : Decimal) :
    (decimal d).compare? (.decimal e) =
      some (cmp (toLex (.inl d.toRat) : ℚ ⊕ₗ List ℕ) (toLex (.inl e.toRat))) :=
  congrArg some ((d.compare_eq_cmp e).trans (Sum.Lex.inl_strictMono.cmp_map_eq _ _).symm)

/-- Comparing values that have ranks is comparing these. -/
theorem Value.compareScalars?_eq_rank (left : x.IsRanked) (right : y.IsRanked) :
    x.compareScalars? y = some (cmp x.rank y.rank) := by
  cases left with
  | bool a =>
    cases right with
    | bool b =>
      change some (compare a b) = _
      rw [← Number.compare?_ofBool, Number.ofBool_eq, Number.ofBool_eq, rank_bool, rank_bool]
      exact Number.compare?_decimal _ _
    | decimal e =>
      change (Number.ofBool a).compare? (.decimal e) = _
      rw [Number.ofBool_eq, rank_bool]
      exact Number.compare?_decimal _ _
    | text t => exact congrArg some ((cmp_eq_lt_iff _ _).mpr (Sum.Lex.inl_lt_inr _ _)).symm
  | decimal d =>
    cases right with
    | bool b =>
      change (Number.decimal d).compare? (.ofBool b) = _
      rw [Number.ofBool_eq, rank_bool]
      exact Number.compare?_decimal _ _
    | decimal e => exact Number.compare?_decimal d e
    | text t => exact congrArg some ((cmp_eq_lt_iff _ _).mpr (Sum.Lex.inl_lt_inr _ _)).symm
  | text s =>
    cases right with
    | bool b => exact congrArg some ((cmp_eq_gt_iff _ _).mpr (Sum.Lex.inl_lt_inr _ _)).symm
    | decimal e => exact congrArg some ((cmp_eq_gt_iff _ _).mpr (Sum.Lex.inl_lt_inr _ _)).symm
    | text t =>
      have order : (compareText s t).Compares (text s).rank (text t).rank :=
        Sum.Lex.inr_strictMono.compares.mpr (compares_compareText s t)
      exact congrArg some (order.inj (cmp_compares _ _))

theorem Value.IsRanked.isPlain (ranked : x.IsRanked) : x.IsPlain := by
  cases ranked <;> exact ⟨Bool.false_ne_true, Bool.false_ne_true⟩

/-- A comparison of values that have ranks says how these are ordered. -/
theorem Value.relates_eq_rank (r : Relation) (left : x.IsRanked) (right : y.IsRanked) :
    x.relates r y = .bool (r.holds (some (cmp x.rank y.rank))) := by
  rw [relates, left.isPlain.broadcast, right.isPlain.mapScalars, scalarRelates,
    compareScalars?_eq_rank left right]

/-- Whether a comparison of two values comes out true. -/
def Relation.Relates (r : Relation) (x y : Value) : Prop :=
  x.relates r y = .bool true

theorem Relation.relates_iff (r : Relation) (left : x.IsRanked) (right : y.IsRanked) :
    r.Relates x y ↔ r.On x.rank y.rank := by
  rw [Relates, Value.relates_eq_rank r left right, Value.bool.injEq, holds_cmp]

end Ranks

/-! ## The laws of comparison -/

/-- How comparison behaves on three values that stand in one order. -/
structure Value.ComparisonLaws (x y z : Value) : Prop where
  /-- Every comparison has an answer. -/
  answer : ∀ r : Relation, ∃ b, x.relates r y = .bool b
  /-- The order is that of the ranks: every text is above every number and truth value, texts are
  ordered by their code points, and truth values are zero and one among the numbers. -/
  order : ∀ r : Relation, r.Relates x y ↔ r.On x.rank y.rank
  /-- Exactly one of the three strict relations holds. -/
  trichotomy : ∃! r : Relation, (r = .less ∨ r = .equal ∨ r = .greater) ∧ r.Relates x y
  lessOrEqual : Relation.lessOrEqual.Relates x y ↔
    Relation.less.Relates x y ∨ Relation.equal.Relates x y
  greaterOrEqual : Relation.greaterOrEqual.Relates x y ↔
    Relation.greater.Relates x y ∨ Relation.equal.Relates x y
  notEqual : Relation.notEqual.Relates x y ↔ ¬ Relation.equal.Relates x y
  trans : Relation.lessOrEqual.Relates x y → Relation.lessOrEqual.Relates y z →
    Relation.lessOrEqual.Relates x z
  /-- Equal values compare alike with every value, from both sides. -/
  congr : Relation.equal.Relates x y → ∀ r : Relation,
    x.relates r z = y.relates r z ∧ z.relates r x = z.relates r y

/-- Comparison is a total preorder on truth values, decimals and texts. -/
theorem Value.comparison_laws {x y z : Value} (first : x.IsRanked) (second : y.IsRanked)
    (third : z.IsRanked) : ComparisonLaws x y z where
  answer r := ⟨_, relates_eq_rank r first second⟩
  order r := r.relates_iff first second
  trichotomy := by
    simp only [Relation.relates_iff _ first second]
    rcases lt_trichotomy x.rank y.rank with less | same | greater
    · refine ⟨.less, ⟨.inl rfl, less⟩, ?_⟩
      intro r holds
      rcases holds with ⟨rfl | rfl | rfl, on⟩
      · rfl
      · exact absurd on less.ne
      · exact absurd on less.not_gt
    · refine ⟨.equal, ⟨.inr (.inl rfl), same⟩, ?_⟩
      intro r holds
      rcases holds with ⟨rfl | rfl | rfl, on⟩
      · exact absurd same on.ne
      · rfl
      · exact absurd same on.ne'
    · refine ⟨.greater, ⟨.inr (.inr rfl), greater⟩, ?_⟩
      intro r holds
      rcases holds with ⟨rfl | rfl | rfl, on⟩
      · exact absurd on greater.not_gt
      · exact absurd on greater.ne'
      · rfl
  lessOrEqual := by
    simp only [Relation.relates_iff _ first second]
    exact le_iff_lt_or_eq
  greaterOrEqual := by
    simp only [Relation.relates_iff _ first second]
    exact le_iff_lt_or_eq.trans (or_congr_right eq_comm)
  notEqual := by
    simp only [Relation.relates_iff _ first second]
    rfl
  trans := by
    simp only [Relation.relates_iff _ first second, Relation.relates_iff _ second third,
      Relation.relates_iff _ first third]
    exact le_trans
  congr := by
    intro same r
    have ranks : x.rank = y.rank := (Relation.relates_iff _ first second).mp same
    rw [relates_eq_rank r first third, relates_eq_rank r second third,
      relates_eq_rank r third first, relates_eq_rank r third second, ranks]
    exact ⟨rfl, rfl⟩

/-- A truth value and the number that it equals are both below a text of digits. -/
theorem Value.comparison_laws_mixed :
    ComparisonLaws (.bool true) (.number (.decimal (.ofInt 1))) (.text "0") ∧
      (Value.bool true).relates .less (.text "0") =
        (Value.number (.decimal (.ofInt 1))).relates .less (.text "0") := by
  have laws : ComparisonLaws (.bool true) (.number (.decimal (.ofInt 1))) (.text "0") :=
    comparison_laws (.bool true) (.decimal (.ofInt 1)) (.text "0")
  have same : Relation.equal.Relates (.bool true) (.number (.decimal (.ofInt 1))) := rfl
  exact ⟨laws, (laws.congr same .less).1⟩

-- Null equals values that differ, so these laws stop at it.
example : Relation.equal.Relates .null (.text "") ∧ Relation.equal.Relates .null (.ofInt 0) ∧
    Relation.less.Relates (.ofInt 0) (.text "") :=
  ⟨rfl, rfl, rfl⟩

end Spreadsheet
