import Spreadsheet.Proofs.Comparison

/-!
# Laws of operators

Laws that operators have on values of all kinds, arrays of all shapes among them.

* `Value.swap_operands`: sums and products are the same from both sides, a comparison is the
  reverse one from the other side, and what precedes from one side follows from the other.
* `Value.followedBy_assoc`: joining texts is associative, also where shapes do not fit together.
* `Value.arithmetic_numeric`: arithmetic sees null and truth values as numbers, wherever they stand.

Each comes from a law of scalars and from what broadcasting does with such a law.
-/

namespace Spreadsheet

/-! ## Swapping operands -/

section Swapping

protected theorem Binary64.add_comm (x y : Binary64) : x.add y = y.add x := by
  cases x with
  | nan => cases y <;> rfl
  | infinity s =>
    cases y with
    | nan | finite _ _ _ => rfl
    | infinity t => cases s <;> cases t <;> rfl
  | finite s m e =>
    cases y with
    | nan | infinity _ => rfl
    | finite t n f =>
      have total : inUnits s m e (min f e) + inUnits t n f (min f e) =
          inUnits t n f (min f e) + inUnits s m e (min f e) := Int.add_comm _ _
      have sign : (s && t && m == 0 && n == 0) = (t && s && n == 0 && m == 0) := by
        cases s <;> cases t <;> simp [Bool.and_comm]
      simp only [add, min_comm e f, total, sign]

protected theorem Binary64.mul_comm (x y : Binary64) : x.mul y = y.mul x := by
  cases x with
  | nan => cases y <;> rfl
  | infinity s =>
    cases y with
    | nan => rfl
    | infinity t | finite t n f => simp only [mul, bne_comm]
  | finite s m e =>
    cases y with
    | nan => rfl
    | infinity t => simp only [mul, bne_comm]
    | finite t n f => simp only [mul, bne_comm, Nat.mul_comm, Int.add_comm]

theorem Decimal.eq_of_coeff_eq_zero {x y : Decimal} (left : x.coeff = 0) (right : y.coeff = 0) :
    x = y := by
  have values : x.toRat = y.toRat := by rw [toRat_eq_zero.mpr left, toRat_eq_zero.mpr right]
  exact toRat_injective values

theorem Decimal.exactAdd_comm (x y : Decimal) : x.exactAdd y = y.exactAdd x := by
  apply toRat_injective
  rw [toRat_exactAdd, toRat_exactAdd, Rat.add_comm]

protected theorem Decimal.add_comm (x y : Decimal) : x.add y = y.add x := by
  by_cases left : x.coeff = 0
  · by_cases right : y.coeff = 0
    · rw [eq_of_coeff_eq_zero left right]
    · rw [add, add, if_pos left, if_neg right, if_pos left]
  · by_cases right : y.coeff = 0
    · rw [add, add, if_neg left, if_pos right, if_pos right]
    · have alike : x.exp = y.exp ∨ x.coeff.sign = y.coeff.sign ↔
          y.exp = x.exp ∨ y.coeff.sign = x.coeff.sign := or_congr eq_comm eq_comm
      rw [add, add, if_neg left, if_neg right, if_neg right, if_neg left, exactAdd_comm]
      simp only [alike]

protected theorem Number.add_comm (m n : Number) : m.add n = n.add m := by
  have doubles : viaBinary64 .add m n = viaBinary64 .add n m :=
    congrArg ofBinary64 (Binary64.add_comm _ _)
  cases m with
  | decimal x =>
    cases n with
    | decimal y => exact congrArg decimal (x.add_comm y)
    | infinity _ | nan => exact doubles
  | infinity _ | nan => cases n <;> exact doubles

protected theorem Number.mul_comm (m n : Number) : m.mul n = n.mul m := by
  have doubles : viaBinary64 .mul m n = viaBinary64 .mul n m :=
    congrArg ofBinary64 (Binary64.mul_comm _ _)
  cases m with
  | decimal x =>
    cases n with
    | decimal y => exact congrArg decimal (x.mul_comm y)
    | infinity _ | nan => exact doubles
  | infinity _ | nan => cases n <;> exact doubles

variable {x y : Value}

/-- Sums and products of scalars are the same from both sides. -/
theorem Value.scalarArithmetic_swap {op : Arithmetic} (commutes : op = .plus ∨ op = .times) :
    scalarArithmetic op x y = scalarArithmetic op y x := by
  have numbers : ∀ m n : Number, op.apply m n = op.apply n m := by
    intro m n
    rcases commutes with rfl | rfl
    · rw [Arithmetic.apply, Arithmetic.apply, Arithmetic.compute, Arithmetic.compute, m.add_comm n]
    · rw [Arithmetic.apply, Arithmetic.apply, Arithmetic.compute, Arithmetic.compute, m.mul_comm n]
  unfold scalarArithmetic
  cases x.operand? with
  | none => cases y.operand? <;> rfl
  | some m =>
    cases y.operand? with
    | none => rfl
    | some n => exact numbers m n

/-- Operators whose operands are swapped, on values in which no error stands. -/
theorem Value.swap_operands (left : x.ErrorFree) (right : y.ErrorFree) :
    x.plus y = y.plus x ∧ x.times y = y.times x ∧
      (∀ r : Relation, x.relates r y = y.relates r.reverse x) ∧
      x.precededBy y = y.followedBy x := by
  have arithmetic : ∀ op, op = Arithmetic.plus ∨ op = .times →
      Value.arithmetic op x y = Value.arithmetic op y x := by
    intro op commutes
    have scalars : (fun w v => scalarArithmetic op v w) = scalarArithmetic op :=
      funext₂ fun _ _ => scalarArithmetic_swap commutes
    rw [Value.arithmetic, broadcast_swap left right, scalars]
  refine ⟨arithmetic .plus (.inl rfl), arithmetic .times (.inr rfl), fun r => ?_,
    broadcast_swap left right⟩
  have scalars : (fun w v => scalarRelates r v w) = scalarRelates r.reverse :=
    funext₂ fun w v => scalarRelates_reverse r v w
  rw [relates, relates, broadcast_swap left right, scalars]

/-- A row with an array in it, and a column with an infinity in it. -/
theorem Value.swap_operands_nested :
    (array ⟨1, 2, [.null, .array (.single (.bool true))]⟩).plus
        (.array ⟨2, 1, [.number (.infinity true), .text "a"]⟩) =
      (array ⟨2, 1, [.number (.infinity true), .text "a"]⟩).plus
        (.array ⟨1, 2, [.null, .array (.single (.bool true))]⟩) ∧
    (array ⟨1, 2, [.null, .array (.single (.bool true))]⟩).relates .less
        (.array ⟨2, 1, [.number (.infinity true), .text "a"]⟩) =
      (array ⟨2, 1, [.number (.infinity true), .text "a"]⟩).relates .greater
        (.array ⟨1, 2, [.null, .array (.single (.bool true))]⟩) := by
  have row : (array ⟨1, 2, [.null, .array (.single (.bool true))]⟩).ErrorFree :=
    .array (List.forall_mem_cons.mpr ⟨.plain (by decide), List.forall_mem_singleton.mpr
      (.array (List.forall_mem_singleton.mpr (.plain (by decide))))⟩)
  have column : (array ⟨2, 1, [.number (.infinity true), .text "a"]⟩).ErrorFree :=
    .array (List.forall_mem_cons.mpr ⟨.plain (by decide), List.forall_mem_singleton.mpr
      (.plain (by decide))⟩)
  obtain ⟨sum, -, comparison, -⟩ := swap_operands row column
  exact ⟨sum, comparison .less⟩

end Swapping

/-! ## Joining texts -/

/-- Whether a cell can occur among texts that are being joined: a scalar that is no error, or what
stands for a missing cell. -/
def Value.IsPiece (v : Value) : Prop :=
  v.IsPlain ∨ v = notAvailable

/-- Whether a value is such a cell but no error, or a table of such cells. -/
structure Value.IsJoinable (v : Value) : Prop where
  noError : ¬ v.isError
  pieces : v.asGrid.IsTable IsPiece

section Joining

variable {x y z : Value}

theorem Value.isPlain_joinScalars (x y : Value) : (joinScalars x y).IsPlain :=
  ⟨Bool.false_ne_true, Bool.false_ne_true⟩

theorem Value.joinScalars_assoc (x y z : Value) :
    joinScalars (joinScalars x y) z = joinScalars x (joinScalars y z) :=
  congrArg text String.append_assoc

theorem Value.IsPlain.followedBy (left : x.IsPlain) (right : y.IsPlain) :
    x.followedBy y = joinScalars x y := by
  rw [Value.followedBy, left.broadcast, right.mapScalars]

theorem Value.IsPlain.followedBy_notAvailable (left : x.IsPlain) :
    x.followedBy notAvailable = notAvailable := by
  rw [Value.followedBy, left.broadcast]
  rfl

/-- Joining pieces is associative, and a missing cell absorbs all others. -/
theorem Value.associativeWithZero_followedBy :
    AssociativeWithZero IsPiece Value.followedBy notAvailable where
  zero_mem := .inr rfl
  zero_left _ := rfl
  zero_right := by
    intro v piece
    rcases piece with plain | rfl
    · exact plain.followedBy_notAvailable
    · rfl
  closed := by
    intro v w left right
    rcases left with left | rfl
    · rcases right with right | rfl
      · rw [left.followedBy right]
        exact .inl (isPlain_joinScalars v w)
      · rw [left.followedBy_notAvailable]
        exact .inr rfl
    · exact .inr rfl
  assoc := by
    intro u v w first second third
    rcases first with first | rfl
    · rcases second with second | rfl
      · have joined := isPlain_joinScalars u v
        rw [first.followedBy second]
        rcases third with third | rfl
        · rw [second.followedBy third, joined.followedBy third,
            first.followedBy (isPlain_joinScalars v w), joinScalars_assoc]
        · rw [second.followedBy_notAvailable, first.followedBy_notAvailable,
            joined.followedBy_notAvailable]
      · rw [first.followedBy_notAvailable]
        exact first.followedBy_notAvailable.symm
    · rfl

/-- A value is determined by its cells, and by whether it is an array. -/
theorem Value.eq_of_asGrid (kinds : x.isArray ↔ y.isArray) (cells : x.asGrid = y.asGrid) :
    x = y := by
  by_cases array : x.isArray
  · obtain ⟨g, rfl⟩ := exists_of_isArray array
    obtain ⟨h, rfl⟩ := exists_of_isArray (kinds.mp array)
    exact congrArg Value.array cells
  · rw [asGrid_scalar array, asGrid_scalar (mt kinds.mpr array)] at cells
    exact List.singleton_inj.mp (congrArg Grid.cells cells)

/-- Joinable values are joined cell by cell, to an array if one of them is an array. -/
theorem Value.IsJoinable.joined (left : x.IsJoinable) (right : y.IsJoinable) :
    ¬ (x.followedBy y).isError ∧ ((x.followedBy y).isArray ↔ x.isArray ∨ y.isArray) ∧
      (x.followedBy y).asGrid =
        x.asGrid.zipBroadcast Value.followedBy notAvailable y.asGrid := by
  by_cases array : x.isArray ∨ y.isArray
  · have joined : x.followedBy y = _ := broadcast_eq_zipBroadcast left.noError right.noError array
      (left.pieces.imp fun _ _ => trivial) (right.pieces.imp fun _ _ => trivial)
    rw [joined]
    exact ⟨Bool.false_ne_true, iff_of_true rfl array, rfl⟩
  · obtain ⟨here, there⟩ := not_or.mp array
    have joined : x.followedBy y = joinScalars x y :=
      IsPlain.followedBy ⟨left.noError, here⟩ ⟨right.noError, there⟩
    have table : x.asGrid.IsTable IsPiece := left.pieces
    rw [asGrid_scalar here] at table
    rw [asGrid_scalar here, asGrid_scalar there, Grid.zipBroadcast_single table, joined]
    exact ⟨Bool.false_ne_true, iff_of_false Bool.false_ne_true array,
      congrArg Grid.single joined.symm⟩

/-- What joinable values are joined to can be joined further. -/
theorem Value.IsJoinable.followedBy (left : x.IsJoinable) (right : y.IsJoinable) :
    (x.followedBy y).IsJoinable := by
  obtain ⟨noError, -, cells⟩ := left.joined right
  refine ⟨noError, ?_⟩
  rw [cells]
  exact associativeWithZero_followedBy.zipBroadcast left.pieces right.pieces

theorem Value.IsScalar.isPlain {N : Number → Prop} (scalar : x.IsScalar N) (free : x.ErrorFree) :
    x.IsPlain := by
  cases free with
  | plain plain => exact plain
  | array _ => cases scalar

/-- A scalar or a table of scalars is joinable if no error stands in it. -/
theorem Value.WellFormed.isJoinable {N : Number → Prop} (wellFormed : x.WellFormed N)
    (free : x.ErrorFree) : x.IsJoinable := by
  cases wellFormed with
  | scalar scalar =>
    have plain : x.IsPlain := scalar.isPlain free
    refine ⟨plain.1, ?_⟩
    rw [asGrid_scalar plain.2]
    exact Grid.isTable_single (.inl plain)
  | @table g table =>
    have cells : ∀ v ∈ g.cells, v.IsPiece := by
      cases free with
      | plain plain => exact absurd rfl plain.2
      | array frees => exact fun v member => .inl ((table.cells v member).isPlain (frees v member))
    exact ⟨Bool.false_ne_true, table.full, table.rows, table.columns, cells⟩

theorem Value.IsPlain.isScalar (plain : x.IsPlain) : x.IsScalar fun _ => True := by
  cases x with
  | error _ => exact absurd rfl plain.1
  | array _ => exact absurd rfl plain.2
  | null => exact .null
  | bool b => exact .bool b
  | number n => exact .number trivial
  | text s => exact .text s

theorem Value.wellFormed_of_plain {g : Grid Value} (table : g.IsTable IsPlain) :
    ((array g).WellFormed fun _ => True) ∧ (array g).ErrorFree :=
  ⟨.table (table.imp fun _ => IsPlain.isScalar),
    .array fun v member => .plain (table.cells v member)⟩

/-- Joining is associative on scalars and tables of scalars of all shapes in which no error stands:
what does not fit is missing in the same positions. -/
theorem Value.followedBy_assoc
    (each : ∀ v ∈ [x, y, z], (v.WellFormed fun _ => True) ∧ v.ErrorFree) :
    (x.followedBy y).followedBy z = x.followedBy (y.followedBy z) := by
  have joinable : ∀ v ∈ [x, y, z], v.IsJoinable :=
    fun v member => (each v member).1.isJoinable (each v member).2
  simp only [List.forall_mem_cons, List.not_mem_nil] at joinable
  obtain ⟨first, second, third, -⟩ := joinable
  obtain ⟨-, leftArray, leftCells⟩ := first.joined second
  obtain ⟨-, rightArray, rightCells⟩ := second.joined third
  obtain ⟨-, array, cells⟩ := (first.followedBy second).joined third
  obtain ⟨-, array', cells'⟩ := first.joined (second.followedBy third)
  apply eq_of_asGrid
  · rw [array, array', leftArray, rightArray, or_assoc]
  · rw [cells, cells', leftCells, rightCells]
    exact Grid.zipBroadcast_assoc associativeWithZero_followedBy first.pieces second.pieces
      third.pieces

/-- A column of two, a column of three and a row: below the first column nothing is available. -/
theorem Value.followedBy_assoc_misfit :
    ((array ⟨2, 1, [.text "a", .text "b"]⟩).followedBy
        (.array ⟨3, 1, [.bool true, .null, .text "c"]⟩)).followedBy
          (.array ⟨1, 2, [.text "d", .text "e"]⟩) =
      (array ⟨2, 1, [.text "a", .text "b"]⟩).followedBy
        ((array ⟨3, 1, [.bool true, .null, .text "c"]⟩).followedBy
          (.array ⟨1, 2, [.text "d", .text "e"]⟩)) ∧
    ((array ⟨2, 1, [.text "a", .text "b"]⟩).followedBy
        ((array ⟨3, 1, [.bool true, .null, .text "c"]⟩).followedBy
          (.array ⟨1, 2, [.text "d", .text "e"]⟩))) =
      .array ⟨3, 2, [.text "aTRUEd", .text "aTRUEe", .text "bd", .text "be", notAvailable,
        notAvailable]⟩ := by
  refine ⟨followedBy_assoc ?_, rfl⟩
  simp only [List.forall_mem_cons]
  exact ⟨wellFormed_of_plain ⟨rfl, by decide, by decide, by decide⟩,
    wellFormed_of_plain ⟨rfl, by decide, by decide, by decide⟩,
    wellFormed_of_plain ⟨rfl, by decide, by decide, by decide⟩, List.forall_mem_nil _⟩

end Joining

/-! ## Numbers that operands stand for -/

/-- A scalar, or the number that it stands for as an operand of arithmetic. -/
def Value.asOperand : Value → Value
  | .null => .ofInt 0
  | .bool b => .number (.ofBool b)
  | v => v

/-- A value with every null in it replaced by zero and every truth value by one or zero, at any
depth. -/
def Value.numeric : Value → Value :=
  .mapScalars .asOperand

section Operands

variable {x y : Value} {op : Arithmetic}

theorem Value.IsPlain.asOperand (plain : x.IsPlain) : x.asOperand.IsPlain := by
  cases x with
  | null | bool _ => exact ⟨Bool.false_ne_true, Bool.false_ne_true⟩
  | number _ | text _ | error _ | array _ => exact plain

theorem Value.operand?_asOperand (x : Value) : x.asOperand.operand? = x.operand? := by
  cases x <;> rfl

theorem Value.arithmetic_numeric_left :
    Value.arithmetic op x.numeric y = Value.arithmetic op x y := by
  have scalars : (fun v => scalarArithmetic op v.asOperand) = scalarArithmetic op := by
    funext v w
    rw [scalarArithmetic, scalarArithmetic, operand?_asOperand]
  rw [Value.arithmetic, numeric, broadcast_mapScalars_left fun _ => IsPlain.asOperand, scalars]

theorem Value.arithmetic_numeric_right :
    Value.arithmetic op x y.numeric = Value.arithmetic op x y := by
  have scalars : (fun v w => scalarArithmetic op v (asOperand w)) = scalarArithmetic op := by
    funext v w
    rw [scalarArithmetic, scalarArithmetic, operand?_asOperand]
  rw [Value.arithmetic, numeric, broadcast_mapScalars_right fun _ => IsPlain.asOperand, scalars]

/-- Arithmetic sees the numbers that its operands stand for, on both sides or on one of them: beside
any value null is zero. -/
theorem Value.arithmetic_numeric (op : Arithmetic) (x y : Value) :
    Value.arithmetic op x.numeric y.numeric = Value.arithmetic op x y ∧
      Value.arithmetic op x.numeric y = Value.arithmetic op x y ∧
      Value.arithmetic op x y.numeric = Value.arithmetic op x y :=
  ⟨arithmetic_numeric_left.trans arithmetic_numeric_right, arithmetic_numeric_left,
    arithmetic_numeric_right⟩

end Operands

end Spreadsheet
