import Spreadsheet.Proofs.Locality
import Spreadsheet.Proofs.WellFormed

/-!
# Well-formed operands

An operand is well formed if it is a well-formed value, or a reference to cells that can be counted
and that are read as scalars. Then its value is well formed, and so are all its cells.

Stores whose cells keep numbers of one kind give such references (`readCell_isScalar`), and
well-formed operands written into a store leave it such (`Operand.WellFormed.holds_write`). Standard
functions make well-formed operands out of well-formed ones (`Function.wellFormed_calculate`).
-/

namespace Spreadsheet

/-! ## Cells -/

/-- Whether the number that a cell keeps, if it keeps one, is of a given kind. -/
def Cell.Holds (N : Number → Prop) (c : Cell) : Prop :=
  ∀ n, c.content = some (.number n) → N n

/-- Whether all numbers that a store keeps are of a given kind. -/
def CellStore.Holds (N : Number → Prop) (store : CellStore) : Prop :=
  ∀ unit sheet p c, store.cell? unit sheet p = some c → c.Holds N

section Cells

variable {N : Number → Prop}

theorem CellStore.holds_empty : ({} : CellStore).Holds N := by
  intro unit sheet p c stored
  cases stored

/-- The cell of a scalar keeps a number of its kind, if any. -/
theorem Value.IsScalar.holds_ofValue {v : Value} (scalar : v.IsScalar N) :
    (Cell.ofValue v).Holds N := by
  intro n kept
  cases scalar with
  | number kind =>
    cases kept
    exact kind
  | null | bool _ | text _ | error _ => cases kept

/-- Writing cells of scalars into a store keeps its numbers of their kind. -/
theorem CellStore.Holds.scatter {store : CellStore} (holds : store.Holds N) {unit sheet : String}
    {anchor : Position} {entries : List (Nat × Nat × Value)}
    (scalars : ∀ entry ∈ entries, entry.2.2.IsScalar N) :
    (store.scatter unit sheet anchor entries).Holds N := by
  induction entries generalizing store with
  | nil => exact holds
  | cons entry rest ih =>
    rw [List.forall_mem_cons] at scalars
    rw [CellStore.scatter, List.foldl_cons]
    refine ih (fun unit' sheet' p c stored => ?_) scalars.2
    rw [cell?_setCell] at stored
    split at stored
    · cases stored
      exact scalars.1.holds_ofValue
    · exact holds unit' sheet' p c stored

variable (closed : Arithmetic.Closed N)

include closed

/-- Stored content is read as a scalar. -/
theorem RawValue.isScalar_read {raw : RawValue} {tag : Option CellTag}
    (kind : ∀ n, raw = .number n → N n) : (raw.read tag).IsScalar N := by
  have texts : ∀ s, (Value.ofStoredText s).IsScalar N := by
    intro s
    unfold Value.ofStoredText
    split
    · exact .error _
    · exact .text s
  unfold RawValue.read
  split
  · exact texts _
  · exact .text _
  · exact .text _
  · exact .bool _
  · exact .bool _
  · exact .bool _
  · split
    · rename_i n read
      exact .number (Number.kind_of_ofText? closed read)
    · exact texts _
  · exact .number (kind _ rfl)
  · exact .bool _
  · exact texts _

/-- The value of a cell is a scalar. -/
theorem Cell.Holds.isScalar_value {c : Cell} (holds : c.Holds N) : c.value.IsScalar N := by
  unfold Cell.value
  split
  · exact .null
  · rename_i raw content
    exact RawValue.isScalar_read closed fun n number => holds n (number ▸ content)

/-- What is read through layers is a scalar. -/
theorem readCell_isScalar {layers : Layers} (holds : ∀ layer ∈ layers, layer.Holds N)
    (unit sheet : String) (p : Position) : (readCell layers unit sheet p).IsScalar N := by
  unfold readCell
  split
  · rename_i c found
    obtain ⟨layer, member, stored⟩ := List.exists_of_findSome?_eq_some found
    exact (holds layer member unit sheet p c stored).isScalar_value closed
  · exact .null

omit closed in
/-- No array is read through a reference. -/
theorem Reference.not_isArray_read (r : Reference) (p : Position) : ¬ (r.read p).isArray := by
  have kept : ∀ layer ∈ r.layers, layer.Holds fun _ => True :=
    fun _ _ _ _ _ _ _ _ _ => trivial
  exact (readCell_isScalar Arithmetic.closed_true kept r.unit r.sheet p).not_isArray

end Cells

/-! ## Operands -/

/-- Whether an operand is a well-formed value, or a reference to cells that can be counted and are
read as scalars. -/
inductive Operand.WellFormed (N : Number → Prop) : Operand → Prop
  | value {v : Value} (wellFormed : v.WellFormed N) : WellFormed N (.value v)
  | reference {r : Reference} (countable : (Operand.reference r).IsCountable)
      (scalars : ∀ p, (r.read p).IsScalar N) : WellFormed N (.reference r)

section Operands

variable {N : Number → Prop} {x : Operand}

theorem Operand.wellFormed_ofError (e : FormulaError) : (Operand.ofError e).WellFormed N :=
  .value (.scalar (.error e))

/-- The cells of a well-formed operand are scalars. -/
theorem Operand.WellFormed.isScalar_cells (wellFormed : x.WellFormed N) :
    ∀ v ∈ x.cells, v.IsScalar N := by
  cases wellFormed with
  | reference _ scalars =>
    intro v member
    obtain ⟨p, -, rfl⟩ := List.mem_map.mp member
    exact scalars p
  | value wellFormed =>
    cases wellFormed with
    | table table => exact table.cells
    | scalar scalar =>
      cases scalar with
      | null | bool _ | number _ | text _ | error _ =>
        refine List.forall_mem_singleton.mpr ?_
        constructor <;> assumption

/-- The cells of a well-formed operand fill its shape. -/
theorem Operand.WellFormed.isFull (wellFormed : x.WellFormed N) : x.IsFull := by
  cases wellFormed with
  | reference _ _ => trivial
  | value wellFormed =>
    cases wellFormed with
    | table table => exact table.full
    | scalar scalar => cases scalar <;> trivial

/-- The value of a well-formed operand is well formed. -/
theorem Operand.WellFormed.force (wellFormed : x.WellFormed N) : x.force.WellFormed N := by
  cases wellFormed with
  | value wellFormed => exact wellFormed
  | @reference r countable scalars =>
    change r.force.WellFormed N
    unfold Reference.force
    split
    · exact .scalar (scalars _)
    · have cells : ∀ v ∈ r.values, v.IsScalar N :=
        (Operand.WellFormed.reference countable scalars).isScalar_cells
      have full : r.toGrid.IsFull := Reference.toGrid_isFull countable
      exact .table ⟨full, Nat.succ_pos _, Nat.succ_pos _, cells⟩

/-- So is its single value, for which an array of one cell gives that cell. -/
theorem Operand.WellFormed.scalar (wellFormed : x.WellFormed N) : x.scalar.WellFormed N := by
  unfold Operand.scalar
  split
  · rename_i g
    split
    · cases cell : g.get? 0 0 with
      | none => exact .scalar .null
      | some v => exact .scalar (wellFormed.isScalar_cells v (Grid.mem_cells_of_get? cell))
    · exact wellFormed.force
  · exact wellFormed.force

/-- What is written of a well-formed operand are scalars. -/
theorem Operand.WellFormed.isScalar_spill (wellFormed : x.WellFormed N) (limit : Nat) :
    ∀ entry ∈ x.spill limit, entry.2.2.IsScalar N := by
  have cells := wellFormed.isScalar_cells
  have ofGrid : ∀ g : Grid Value, (∀ v ∈ g.cells, v.IsScalar N) →
      ∀ entry ∈ g.entries, entry.2.2.IsScalar N := by
    intro g scalars entry member
    obtain ⟨⟨v, i⟩, indexed, rfl⟩ := List.mem_map.mp member
    exact scalars v (List.fst_mem_of_mem_zipIdx indexed)
  unfold Operand.spill
  split
  · exact List.forall_mem_singleton.mpr (.error _)
  · match x with
    | .reference r => exact ofGrid r.toGrid cells
    | .value (.array g) => exact ofGrid g cells
    | .value .null | .value (.bool _) | .value (.number _) | .value (.text _) | .value (.error _) =>
      exact List.forall_mem_singleton.mpr (cells _ List.mem_cons_self)

/-- Writing a well-formed operand into the cells of a session keeps their numbers of their kind. -/
theorem Operand.WellFormed.holds_write {s : Session} (holds : s.runtime.Holds N)
    (wellFormed : x.WellFormed N) (anchor : Position) (sheet : String) :
    (s.write anchor sheet x).runtime.Holds N :=
  holds.scatter (wellFormed.isScalar_spill _)

end Operands

/-! ## Standard functions -/

section Functions

variable {N : Number → Prop} (closed : Arithmetic.Closed N)

include closed

/-- The number that a well-formed argument stands for is of its kind. -/
theorem Value.WellFormed.toNumber? {v : Value} (wellFormed : v.WellFormed N) {n : Number}
    (stands : v.toNumber? = .ok n) : N n := by
  cases wellFormed with
  | table _ => cases stands
  | scalar scalar =>
    cases scalar with
    | null | bool _ =>
      cases stands
      exact closed.decimal _
    | number kind =>
      cases stands
      exact kind
    | error _ => cases stands
    | text s =>
      unfold Value.toNumber? at stands
      dsimp only at stands
      split at stands
      · rename_i m read
        cases stands
        exact Number.kind_of_ofText? closed read
      · cases stands

theorem Number.add_kind {x y : Number} (left : N x) (right : N y) : N (x.add y) :=
  closed.compute .plus left right rfl

theorem kind_of_addCells {total n : Number} {cells : List Value} (before : N total)
    (scalars : ∀ v ∈ cells, v.IsScalar N) (added : addCells total cells = .ok n) : N n := by
  induction cells generalizing total with
  | nil =>
    cases added
    exact before
  | cons v rest ih =>
    rw [List.forall_mem_cons] at scalars
    obtain ⟨first, others⟩ := scalars
    cases first with
    | number kind => exact ih (Number.add_kind closed before kind) others added
    | error _ => cases added
    | null | bool _ | text _ => exact ih before others added

theorem kind_of_addOperand {total n : Number} {x : Operand} (before : N total)
    (wellFormed : x.WellFormed N) (added : addOperand total x = .ok n) : N n := by
  unfold addOperand at added
  split at added
  · exact kind_of_addCells closed before wellFormed.isScalar_cells added
  · obtain ⟨m, read, rfl⟩ := Except.exists_of_map_eq_ok added
    exact Number.add_kind closed before (wellFormed.scalar.toNumber? closed read)

theorem kind_of_sumOperands {total n : Number} {xs : List Operand} (before : N total)
    (each : ∀ x ∈ xs, x.WellFormed N) (summed : sumOperands total xs = .ok n) : N n := by
  induction xs generalizing total with
  | nil =>
    cases summed
    exact before
  | cons x rest ih =>
    rw [List.forall_mem_cons] at each
    rw [sumOperands] at summed
    obtain ⟨m, added, later⟩ := Except.exists_of_bind_eq_ok summed
    exact ih (kind_of_addOperand closed before each.1 added) each.2 later

theorem kind_of_totalOf {cells : List Value} (scalars : ∀ v ∈ cells, v.IsScalar N) :
    N (totalOf (numbersOf cells)) := by
  have kinds : ∀ n ∈ numbersOf cells, N n := by
    intro n member
    obtain ⟨v, inside, number⟩ := List.mem_filterMap.mp member
    cases scalars v inside with
    | number kind =>
      cases number
      exact kind
    | null | bool _ | text _ | error _ => cases number
  unfold totalOf
  generalize numbersOf cells = numbers at kinds
  have zero : N (.ofInt 0) := closed.decimal _
  generalize Number.ofInt 0 = total at zero
  induction numbers generalizing total with
  | nil => exact zero
  | cons n rest ih =>
    rw [List.forall_mem_cons] at kinds
    exact ih kinds.2 _ (Number.add_kind closed zero kinds.1)

theorem kind_of_meanOf {cells : List Value} (scalars : ∀ v ∈ cells, v.IsScalar N) {n : Number}
    (mean : meanOf (numbersOf cells) = .ok n) : N n := by
  unfold meanOf at mean
  split at mean
  · rename_i m quotient
    cases mean
    exact closed.compute .divide (kind_of_totalOf closed scalars) (closed.decimal _) quotient
  · cases mean

omit closed in
/-- Chosen cells are cells of the target, in their order. -/
theorem sublist_cells_of_chooseCells {name : String} {range criteria target : Operand}
    {cells : List Value} (chosen : chooseCells name range criteria target = .ok cells) :
    cells.Sublist target.cells := by
  unfold chooseCells at chosen
  simp only [bind, Except.bind, throw, throwThe, MonadExceptOf.throw, pure, Except.pure] at chosen
  split at chosen
  · cases chosen
  split at chosen
  · cases chosen
  split at chosen
  · cases chosen
  split at chosen
  · cases chosen
  cases chosen
  have seconds : ((range.cells.zip target.cells).map (·.2)).Sublist target.cells := by
    rw [List.zip_eq_zip_take_min, List.map_snd_zip (by simp only [List.length_take]; omega)]
    exact List.take_sublist _ _
  exact (List.filter_sublist.map _).trans seconds

omit closed in
theorem exists_sublist_of_chosenCells {name : String} {allowsTarget : Bool} {xs : List Operand}
    {cells : List Value} (chosen : chosenCells name allowsTarget xs = .ok cells) :
    ∃ x ∈ xs, cells.Sublist x.cells := by
  unfold chosenCells at chosen
  split at chosen
  · rename_i range criteria
    exact ⟨range, by simp, sublist_cells_of_chooseCells chosen⟩
  · rename_i range criteria target
    exact ⟨target, by simp, sublist_cells_of_chooseCells chosen⟩
  · cases chosen

omit closed in
/-- The cells that well-formed arguments choose are scalars. -/
theorem isScalar_of_chosenCells {name : String} {allowsTarget : Bool} {xs : List Operand}
    {cells : List Value} (each : ∀ x ∈ xs, x.WellFormed N)
    (chosen : chosenCells name allowsTarget xs = .ok cells) : ∀ v ∈ cells, v.IsScalar N := by
  obtain ⟨x, argument, part⟩ := exists_sublist_of_chosenCells chosen
  intro v member
  exact (each x argument).isScalar_cells v (part.subset member)

omit closed in
theorem Operand.wellFormed_ofNumber? {outcome : Except FormulaError Number}
    (kind : ∀ n, outcome = .ok n → N n) : (Operand.ofNumber? outcome).WellFormed N := by
  cases outcome with
  | ok n => exact .value (.scalar (.number (kind n rfl)))
  | error e => exact wellFormed_ofError e

/-- Standard functions make well-formed operands out of well-formed ones. -/
theorem Function.wellFormed_calculate {f : Function} (standard : f ∈ standardFunctions)
    {xs : List Operand} (each : ∀ x ∈ xs, x.WellFormed N) : (f.calculate xs).WellFormed N := by
  simp only [standardFunctions, List.mem_cons, List.not_mem_nil, or_false] at standard
  rcases standard with rfl | rfl | rfl | rfl
  · unfold Function.sum
    dsimp only
    split
    · exact Operand.wellFormed_ofError _
    · exact Operand.wellFormed_ofNumber? fun n sum =>
        kind_of_sumOperands closed (closed.decimal _) each sum
  · refine Operand.wellFormed_ofNumber? fun n total => ?_
    obtain ⟨cells, chosen, rfl⟩ := Except.exists_of_map_eq_ok total
    exact kind_of_totalOf closed (isScalar_of_chosenCells each chosen)
  · refine Operand.wellFormed_ofNumber? fun n count => ?_
    obtain ⟨cells, -, rfl⟩ := Except.exists_of_map_eq_ok count
    exact closed.decimal _
  · refine Operand.wellFormed_ofNumber? fun n mean => ?_
    obtain ⟨cells, chosen, ofCells⟩ := Except.exists_of_bind_eq_ok mean
    exact kind_of_meanOf closed (isScalar_of_chosenCells each chosen) ofCells

end Functions

end Spreadsheet
