import Spreadsheet.Formula.Literal
import Spreadsheet.Formula.Operator
import Spreadsheet.Proofs.Overlay

/-!
# Well-formed values

A value is well formed if it is a scalar, or an array of scalars that fill a shape with at least one
row and one column. The numbers in it have to be of a given kind, such as the finite ones; all that
is asked of the kind is that it has the decimals and that arithmetic stays in it
(`Arithmetic.Closed`).

Constants are well formed whatever their tokens are (`Value.wellFormed_ofConstant`), and operators
make well-formed values out of well-formed ones (`Operator.wellFormed_apply`). The latter rests on
what broadcasting does to tables, `Grid.IsTable.map` and `Grid.IsTable.zipBroadcast`.
-/

namespace Spreadsheet

/-! ## Kinds of numbers -/

/-- Whether a kind of numbers has all decimals, and arithmetic on its numbers yields no others. -/
structure Arithmetic.Closed (N : Number → Prop) : Prop where
  decimal : ∀ x, N (.decimal x)
  compute : ∀ (op : Arithmetic) {x y n : Number}, N x → N y → op.compute x y = .ok n → N n

theorem Arithmetic.closed_true : Closed fun _ => True where
  decimal _ := trivial
  compute _ _ _ _ _ _ _ := trivial

theorem Number.exists_decimal {n : Number} (finite : n.isFinite) : ∃ x, n = .decimal x := by
  cases n with
  | decimal x => exact ⟨x, rfl⟩
  | infinity _ => cases finite
  | nan => cases finite

theorem Except.exists_of_map_eq_ok {ε α β : Type} {f : α → β} {outcome : Except ε α} {y : β}
    (ok : outcome.map f = .ok y) : ∃ x, outcome = .ok x ∧ f x = y := by
  cases outcome with
  | error e => cases ok
  | ok x => exact ⟨x, rfl, Except.ok.inj ok⟩

theorem Except.exists_of_bind_eq_ok {ε α β : Type} {f : α → Except ε β} {outcome : Except ε α}
    {y : β} (ok : outcome.bind f = .ok y) : ∃ x, outcome = .ok x ∧ f x = .ok y := by
  cases outcome with
  | error e => cases ok
  | ok x => exact ⟨x, rfl, ok⟩

theorem Number.isFinite_of_div? {x y : Decimal} {n : Number}
    (computed : (Number.decimal x).div? (.decimal y) = .ok n) : n.isFinite := by
  unfold div? at computed
  split at computed
  · cases computed
  · cases computed
    rfl

theorem Number.isFinite_of_pow? {x y : Decimal} {n : Number}
    (computed : (Number.decimal x).pow? (.decimal y) = .ok n) : n.isFinite := by
  unfold pow? at computed
  dsimp only at computed
  split at computed
  · cases computed
    rfl
  split at computed
  · split at computed
    · cases computed
    · cases computed
      rfl
  · obtain ⟨power, -, rfl⟩ := Except.exists_of_map_eq_ok computed
    rfl

/-- Arithmetic on finite numbers does not yield infinities. -/
theorem Arithmetic.closed_isFinite : Closed fun n => n.isFinite where
  decimal _ := rfl
  compute := by
    intro op x y n left right computed
    obtain ⟨a, rfl⟩ := Number.exists_decimal left
    obtain ⟨b, rfl⟩ := Number.exists_decimal right
    cases op with
    | plus | minus | times =>
      cases computed
      rfl
    | divide => exact Number.isFinite_of_div? computed
    | power => exact Number.isFinite_of_pow? computed

/-! ## Tables -/

/-- Whether the cells of a grid fill a shape with at least one row and one column, and all have a
property. -/
structure Grid.IsTable {α : Type} (P : α → Prop) (g : Grid α) : Prop where
  full : g.IsFull
  rows : 0 < g.rows
  columns : 0 < g.columns
  cells : ∀ x ∈ g.cells, P x

section Tables

variable {α β γ : Type} {P : α → Prop} {Q : β → Prop} {R : γ → Prop} {g : Grid α} {h : Grid β}

theorem Grid.mem_cells_of_get? {row column : Nat} {x : α} (cell : g.get? row column = some x) :
    x ∈ g.cells := by
  unfold get? at cell
  split at cell
  · exact List.mem_of_getElem? cell
  · cases cell

/-- A function on cells makes a table of a table. -/
theorem Grid.IsTable.map {f : α → β} (table : g.IsTable P) (each : ∀ x, P x → Q (f x)) :
    (g.map f).IsTable Q where
  full :=
    calc (g.cells.map f).length
      _ = g.cells.length := List.length_map f
      _ = g.rows * g.columns := table.full
  rows := table.rows
  columns := table.columns
  cells := List.forall_mem_map.mpr fun x member => each x (table.cells x member)

theorem length_flatMap_range {rows columns : Nat} {cell : Nat → Nat → α} :
    ((List.range rows).flatMap fun i => (List.range columns).map (cell i)).length =
      rows * columns := by
  simp only [List.length_flatMap, List.length_map, List.length_range, List.map_const',
    List.sum_replicate_nat]

/-- A cell of two grids combined is made of a cell of each, or stands for one that is missing. -/
theorem Grid.mem_zipBroadcast {f : α → β → γ} {missing z : γ}
    (member : z ∈ (g.zipBroadcast f missing h).cells) :
    (∃ x ∈ g.cells, ∃ y ∈ h.cells, f x y = z) ∨ missing = z := by
  obtain ⟨row, -, inRow⟩ := List.mem_flatMap.mp member
  obtain ⟨column, -, rfl⟩ := List.mem_map.mp inRow
  dsimp only
  split
  · rename_i x y here there
    exact .inl ⟨x, mem_cells_of_get? here, y, mem_cells_of_get? there, rfl⟩
  · exact .inr rfl

/-- Combining two tables gives a table, whatever stands for cells that one of them lacks. -/
theorem Grid.IsTable.zipBroadcast {f : α → β → γ} {missing : γ} (left : g.IsTable P)
    (right : h.IsTable Q) (each : ∀ x y, P x → Q y → R (f x y)) (otherwise : R missing) :
    (g.zipBroadcast f missing h).IsTable R where
  full := length_flatMap_range
  rows := Nat.lt_of_lt_of_le left.rows (Nat.le_max_left _ _)
  columns := Nat.lt_of_lt_of_le left.columns (Nat.le_max_left _ _)
  cells := by
    intro z member
    rcases mem_zipBroadcast member with ⟨x, here, y, there, rfl⟩ | rfl
    · exact each x y (left.cells x here) (right.cells y there)
    · exact otherwise

theorem le_foldl_max {sizes : List Nat} {least : Nat} :
    least ≤ sizes.foldl max least ∧ ∀ size ∈ sizes, size ≤ sizes.foldl max least := by
  induction sizes generalizing least with
  | nil => exact ⟨Nat.le_refl least, fun _ member => absurd member List.not_mem_nil⟩
  | cons first rest ih =>
    have ⟨start, later⟩ : max least first ≤ rest.foldl max (max least first) ∧
        ∀ size ∈ rest, size ≤ rest.foldl max (max least first) := ih
    refine ⟨Nat.le_trans (Nat.le_max_left least first) start, ?_⟩
    exact List.forall_mem_cons.mpr ⟨Nat.le_trans (Nat.le_max_right least first) start, later⟩

/-- Rows that have been filled up fill the shape. -/
theorem Grid.isFull_ofRows (filler : α) (rows : List (List α)) :
    (Grid.ofRows filler rows).IsFull := by
  unfold IsFull ofRows
  have widths : rows.map (fun row => (row.rightpad ((rows.map List.length).foldl max 0)
      filler).length) = rows.map fun _ => (rows.map List.length).foldl max 0 := by
    refine List.map_congr_left fun row inside => ?_
    have short : row.length ≤ (rows.map List.length).foldl max 0 :=
      le_foldl_max.2 _ (List.mem_map_of_mem inside)
    rw [List.rightpad, List.length_append, List.length_replicate, Nat.add_sub_cancel' short]
  rw [List.length_flatMap, widths, List.map_const', List.sum_replicate_nat]

/-- A cell of an array of rows is one of a row, or fills a row up. -/
theorem Grid.mem_ofRows {filler x : α} {rows : List (List α)}
    (member : x ∈ (Grid.ofRows filler rows).cells) : (∃ row ∈ rows, x ∈ row) ∨ x = filler := by
  obtain ⟨row, inRows, inRow⟩ := List.mem_flatMap.mp member
  rcases List.mem_append.mp inRow with old | added
  · exact .inl ⟨row, inRows, old⟩
  · exact .inr (List.eq_of_mem_replicate added)

/-- Rows, of which at least one is not empty, make a table. -/
theorem Grid.isTable_ofRows {filler : α} {rows : List (List α)} (filled : P filler)
    (each : ∀ row ∈ rows, ∀ x ∈ row, P x) {first : List α} (member : first ∈ rows)
    (nonempty : first ≠ []) : (Grid.ofRows filler rows).IsTable P where
  full := isFull_ofRows filler rows
  rows := List.length_pos_of_mem member
  columns := by
    have width : first.length ≤ (rows.map List.length).foldl max 0 :=
      le_foldl_max.2 _ (List.mem_map_of_mem member)
    exact Nat.lt_of_lt_of_le (List.length_pos_iff.mpr nonempty) width
  cells := by
    intro x inside
    rcases mem_ofRows inside with ⟨row, inRows, inRow⟩ | rfl
    · exact each row inRows x inRow
    · exact filled

end Tables

/-! ## Values -/

/-- Whether a value is no array, and its number, if it is one, is of a given kind. -/
inductive Value.IsScalar (N : Number → Prop) : Value → Prop
  | null : IsScalar N .null
  | bool (b : Bool) : IsScalar N (.bool b)
  | number {n : Number} (kind : N n) : IsScalar N (.number n)
  | text (s : String) : IsScalar N (.text s)
  | error (e : FormulaError) : IsScalar N (.error e)

/-- Whether a value is a scalar or a table of scalars, with numbers of a given kind. -/
inductive Value.WellFormed (N : Number → Prop) : Value → Prop
  | scalar {v : Value} (scalar : v.IsScalar N) : WellFormed N v
  | table {g : Grid Value} (table : g.IsTable (Value.IsScalar N)) : WellFormed N (.array g)

section Values

variable {N : Number → Prop}

theorem Value.IsScalar.not_isArray {v : Value} (scalar : v.IsScalar N) : ¬ v.isArray := by
  cases scalar <;> exact Bool.false_ne_true

/-! ## Broadcasting -/

/-- Whether an operation makes scalars out of scalars, and well-formed values out of well-formed
ones. -/
structure Value.Keeps (N : Number → Prop) (f : Value → Value) : Prop where
  scalar : ∀ v, v.IsScalar N → (f v).IsScalar N
  wellFormed : ∀ v, v.WellFormed N → (f v).WellFormed N

theorem Value.mapScalarsAll_eq {op : Value → Value} {cells : List Value} :
    Value.mapScalarsAll op cells = cells.map (Value.mapScalars op) := by
  induction cells with
  | nil => rfl
  | cons v rest ih => rw [mapScalarsAll, List.map_cons, ih]

theorem Value.broadcastAll_eq {op : Value → Value → Value} {cells : List Value} :
    Value.broadcastAll op cells = cells.map (Value.broadcast op) := by
  induction cells with
  | nil => rfl
  | cons v rest ih => rw [broadcastAll, List.map_cons, ih]

theorem Value.mapScalars_array {op : Value → Value} {g : Grid Value} :
    mapScalars op (.array g) = .array (g.map (mapScalars op)) := by
  rw [mapScalars, mapScalarsAll_eq, Grid.map]

theorem Value.broadcast_array {op : Value → Value → Value} {g : Grid Value} :
    Value.broadcast op (.array g) = applyCells (g.map (Value.broadcast op)) := by
  rw [broadcast, broadcastAll_eq, Grid.map]

/-- An operation on scalars, applied to every scalar inside a value. -/
theorem Value.keeps_mapScalars {op : Value → Value}
    (scalars : ∀ v, v.IsScalar N → (op v).IsScalar N) : Value.Keeps N (.mapScalars op) := by
  have scalar : ∀ v : Value, v.IsScalar N → (v.mapScalars op).IsScalar N := by
    intro v here
    cases v with
    | array g => cases here
    | error e => exact here
    | null | bool _ | number _ | text _ => exact scalars _ here
  refine ⟨scalar, fun v here => ?_⟩
  cases here with
  | scalar here => exact .scalar (scalar v here)
  | table table =>
    rw [mapScalars_array]
    exact .table (table.map scalar)

/-- A table of operations, applied to a well-formed value, makes a well-formed value. -/
theorem Value.wellFormed_applyCells {operations : Grid (Value → Value)}
    (table : operations.IsTable (Value.Keeps N)) {v : Value} (here : v.WellFormed N) :
    (Value.applyCells operations v).WellFormed N := by
  cases here with
  | table right =>
    have missing : notAvailable.IsScalar N := .error _
    exact .table (table.zipBroadcast right (fun _ w keeps => keeps.scalar w) missing)
  | scalar scalar =>
    have everywhere : (operations.map fun operation => operation v).IsTable (Value.IsScalar N) :=
      table.map fun operation keeps => keeps.scalar v scalar
    cases v with
    | array g => cases scalar
    | error e => exact .scalar (.error e)
    | null | bool _ | number _ | text _ => exact .table everywhere

/-- An operation on two scalars, extended to all values, keeps them well formed. -/
theorem Value.wellFormed_broadcast {op : Value → Value → Value}
    (scalars : ∀ v w, v.IsScalar N → w.IsScalar N → (op v w).IsScalar N) {v w : Value}
    (left : v.WellFormed N) (right : w.WellFormed N) : (Value.broadcast op v w).WellFormed N := by
  have beside : ∀ x : Value, x.IsScalar N → Value.Keeps N (.broadcast op x) := by
    intro x scalar
    cases x with
    | array g => cases scalar
    | error e => exact ⟨fun _ _ => .error e, fun _ _ => .scalar (.error e)⟩
    | null | bool _ | number _ | text _ => exact keeps_mapScalars fun y => scalars _ y scalar
  cases left with
  | scalar scalar => exact (beside v scalar).wellFormed w right
  | table table =>
    rw [broadcast_array]
    exact wellFormed_applyCells (table.map beside) right

/-! ## Operators -/

theorem Value.wellFormed_followedBy {v w : Value} (left : v.WellFormed N)
    (right : w.WellFormed N) : (v.followedBy w).WellFormed N := by
  have texts : ∀ v w : Value, v.IsScalar N → w.IsScalar N → (joinScalars v w).IsScalar N :=
    fun _ _ _ _ => .text _
  exact wellFormed_broadcast texts left right

theorem Value.wellFormed_relates {r : Relation} {v w : Value} (left : v.WellFormed N)
    (right : w.WellFormed N) : (v.relates r w).WellFormed N := by
  have truths : ∀ v w : Value, v.IsScalar N → w.IsScalar N → (scalarRelates r v w).IsScalar N :=
    fun _ _ _ _ => .bool _
  exact wellFormed_broadcast truths left right

variable (closed : Arithmetic.Closed N)

include closed

theorem Value.isScalar_ofInt (n : Int) : (Value.ofInt n).IsScalar N :=
  .number (closed.decimal _)

/-- The number that a scalar stands for is of its kind. -/
theorem Value.IsScalar.operand? {v : Value} (scalar : v.IsScalar N) {n : Number}
    (stands : v.operand? = some n) : N n := by
  cases scalar with
  | null | bool _ =>
    cases stands
    exact closed.decimal _
  | number kind =>
    cases stands
    exact kind
  | text _ | error _ => cases stands

theorem Arithmetic.isScalar_apply {op : Arithmetic} {x y : Number} (left : N x) (right : N y) :
    (op.apply x y).IsScalar N := by
  unfold apply
  split
  · rename_i n computed
    have kind : N n := closed.compute op left right computed
    split
    · exact .error _
    · exact .number kind
  · exact .error _

/-- Arithmetic on scalars makes scalars. -/
theorem Value.isScalar_scalarArithmetic {op : Arithmetic} (v w : Value) (left : v.IsScalar N)
    (right : w.IsScalar N) : (Value.scalarArithmetic op v w).IsScalar N := by
  unfold scalarArithmetic
  split
  · rename_i m n stands stands'
    exact Arithmetic.isScalar_apply closed (left.operand? closed stands)
      (right.operand? closed stands')
  · exact .error _

theorem Value.wellFormed_arithmetic {op : Arithmetic} {v w : Value} (left : v.WellFormed N)
    (right : w.WellFormed N) : (v.arithmetic op w).WellFormed N :=
  wellFormed_broadcast (isScalar_scalarArithmetic closed) left right

/-- Operators make well-formed values out of well-formed ones. -/
theorem Operator.wellFormed_apply {op : Operator} {operands : List Value}
    (each : ∀ v ∈ operands, v.WellFormed N) : (op.apply operands).WellFormed N := by
  have constant : ∀ n, (Value.ofInt n).WellFormed N :=
    fun n => .scalar (Value.isScalar_ofInt closed n)
  unfold apply
  split
  · exact Value.wellFormed_arithmetic closed (each _ (by simp)) (each _ (by simp))
  · exact Value.wellFormed_followedBy (each _ (by simp)) (each _ (by simp))
  · exact Value.wellFormed_relates (each _ (by simp)) (each _ (by simp))
  · exact Value.wellFormed_arithmetic closed (constant 0) (each _ (by simp))
  · exact each _ (by simp)
  · exact Value.wellFormed_arithmetic closed (each _ (by simp)) (constant 100)
  · exact .scalar (.error _)

/-! ## Constants -/

theorem Number.kind_of_ofText? {text : String} {n : Number} (read : Number.ofText? text = .ok n) :
    N n := by
  unfold ofText? at read
  dsimp only at read
  split at read
  · cases read
    exact closed.decimal _
  · cases read

/-- A literal is a scalar. -/
theorem Value.isScalar_ofLiteral (token : String) : (Value.ofLiteral token).IsScalar N := by
  unfold ofLiteral
  split
  · exact .error _
  split
  · exact .bool true
  split
  · exact .bool false
  split
  · rename_i n read
    exact .number (Number.kind_of_ofText? closed read)
  · split <;> exact .text _

omit closed in
theorem splitAtChar_ne_nil (separator : Char) (chars : List Char) :
    splitAtChar separator chars ≠ [] := by
  unfold splitAtChar
  split
  · exact List.cons_ne_nil _ _
  split
  · exact List.cons_ne_nil _ _
  · split <;> exact List.cons_ne_nil _ _

/-- The literals of an array constant make a table. -/
theorem isTable_ofRows_literalRows (content : List Char) :
    (Grid.ofRows .null (literalRows content)).IsTable (Value.IsScalar N) := by
  have each : ∀ row ∈ literalRows content, row ≠ [] ∧ ∀ v ∈ row, v.IsScalar N := by
    unfold literalRows
    rw [List.forall_mem_map]
    intro pieces _
    refine ⟨mt List.map_eq_nil_iff.mp (splitAtChar_ne_nil ',' pieces), ?_⟩
    rw [List.forall_mem_map]
    intro cell _
    exact Value.isScalar_ofLiteral closed (.ofList (trimBlanks cell))
  have rows : literalRows content ≠ [] :=
    mt List.map_eq_nil_iff.mp (splitAtChar_ne_nil ';' content)
  obtain ⟨row, member⟩ := List.exists_mem_of_ne_nil _ rows
  obtain ⟨nonempty, -⟩ := each row member
  exact Grid.isTable_ofRows .null (fun row inside => (each row inside).2) member nonempty

/-- A constant is well formed, whatever its token is. -/
theorem Value.wellFormed_ofConstant (token : String) : (Value.ofConstant token).WellFormed N := by
  unfold ofConstant
  split
  · rename_i content enclosed
    unfold ofArrayContent
    split
    · exact .scalar (.error _)
    unfold ofLiteralRows
    split
    · exact .table (isTable_ofRows_literalRows closed content)
    · exact .scalar (.error _)
  · exact .scalar (isScalar_ofLiteral closed token)

end Values

end Spreadsheet
