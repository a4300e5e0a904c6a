import Spreadsheet.Proofs.Outcome

/-!
# Reading back what has been written

A cell keeps a scalar so that it is read back, all but a text that spells an error: errors are kept
by their tokens, so a text that is a token, up to case and blanks around it, comes back as the error
(`Value.value_ofValue_beq_iff`, `Value.value_ofValue_of_spells`). This is what formulas see that are
evaluated after a scalar has been written (`Session.read_after_write`).
-/

namespace Spreadsheet

/-! ## Equality of values -/

theorem Decimal.compare_self {x : Decimal} : x.compare x = .eq := by
  rw [compare]
  exact Std.ReflCmp.compare_self (α := Int)

theorem Number.equal_self {n : Number} (number : ¬ n.isNaN) : n.equal n = true := by
  rw [equal, decide_eq_true_iff]
  cases n with
  | decimal x => exact congrArg some Decimal.compare_self
  | infinity negative => exact congrArg some (if_pos rfl)
  | nan => exact absurd rfl number

theorem Value.beq_self {v : Value} (scalar : v.IsScalar fun n => ¬ n.isNaN) :
    (v == v) = true := by
  change v.equal v = true
  cases scalar with
  | null => rfl
  | number kind => exact Number.equal_self kind
  | bool b => exact beq_self_eq_true b
  | text s => exact beq_self_eq_true s
  | error e => exact beq_self_eq_true e.kind

/-! ## Texts that spell errors -/

/-- Whether a value is a text that spells an error, up to the case of ASCII letters and blanks
around it. -/
def Value.Spells (v : Value) (kind : ErrorKind) : Prop :=
  ∃ t, v = .text t ∧ equalIgnoringAsciiCase kind.token (trimText t)

/-- The tokens of two errors differ in more than case. -/
theorem ErrorKind.eq_of_asciiFold_token {kind other : ErrorKind}
    (same : asciiFold kind.token = asciiFold other.token) : kind = other := by
  have apart : ∀ kind ∈ all, ∀ other ∈ all,
      asciiFold kind.token = asciiFold other.token → kind = other := by
    decide +kernel
  exact apart kind kind.mem_all other other.mem_all same

theorem ErrorKind.spells_token (kind : ErrorKind) : (Value.text kind.token).Spells kind := by
  have spelled : ∀ kind ∈ all, equalIgnoringAsciiCase kind.token (trimText kind.token) := by
    decide +kernel
  exact ⟨kind.token, rfl, spelled kind kind.mem_all⟩

/-- The error that a token is read as is the one that it spells. -/
theorem ErrorKind.ofToken?_eq_some {t : String} {kind : ErrorKind} :
    ofToken? t = some kind ↔ equalIgnoringAsciiCase kind.token (trimText t) := by
  let spelled := fun kind : ErrorKind => equalIgnoringAsciiCase kind.token (trimText t)
  have search : ofToken? t = all.find? spelled := rfl
  rw [search]
  constructor
  · intro found
    exact List.find?_some (p := spelled) found
  · intro same
    obtain ⟨other, found⟩ : ∃ other, all.find? spelled = some other :=
      Option.isSome_iff_exists.mp (List.find?_isSome.mpr ⟨kind, kind.mem_all, same⟩)
    have also : equalIgnoringAsciiCase other.token (trimText t) :=
      List.find?_some (p := spelled) found
    rw [equalIgnoringAsciiCase, beq_iff_eq] at same also
    rw [found, eq_of_asciiFold_token (also.trans same.symm)]

section Cells

variable {v : Value} {s : String} {kind : ErrorKind}

theorem Value.ofStoredText_of_spells (spelled : (Value.text s).Spells kind) :
    ofStoredText s = .ofErrorKind kind := by
  obtain ⟨_, same, spelled⟩ := spelled
  cases same
  rw [ofStoredText, ErrorKind.ofToken?_eq_some.mpr spelled]

theorem Value.ofStoredText_of_not_spells (plain : ∀ kind, ¬ (Value.text s).Spells kind) :
    ofStoredText s = .text s := by
  have unread : ErrorKind.ofToken? s = none := by
    refine Option.eq_none_iff_forall_ne_some.mpr fun kind found => ?_
    exact plain kind ⟨s, rfl, ErrorKind.ofToken?_eq_some.mp found⟩
  rw [ofStoredText, unread]

/-! ## Cells of values -/

theorem Cell.value_ofText : (Cell.ofText s).value = .ofStoredText s := rfl

/-- A scalar that spells no error is read back from its cell. An error comes without its message,
which does not count. -/
theorem Value.value_ofValue_beq (scalar : v.IsScalar fun n => ¬ n.isNaN)
    (plain : ∀ kind, ¬ v.Spells kind) : ((Cell.ofValue v).value == v) = true := by
  cases scalar with
  | null => rfl
  | bool b => exact beq_self (.bool b)
  | number number => exact beq_self (.number number)
  | text s =>
    rw [Cell.ofValue, Cell.value_ofText, ofStoredText_of_not_spells plain]
    exact beq_self (.text s)
  | error e =>
    rw [Cell.ofValue, Cell.value_ofText, ofStoredText_of_spells e.kind.spells_token]
    exact beq_self_eq_true e.kind

/-- A text that spells an error is read back as the error. -/
theorem Value.value_ofValue_of_spells (spelled : v.Spells kind) :
    (Cell.ofValue v).value = .ofErrorKind kind := by
  obtain ⟨s, rfl, same⟩ := spelled
  rw [Cell.ofValue, Cell.value_ofText, ofStoredText_of_spells ⟨s, rfl, same⟩]

theorem Value.value_ofValue_beq_iff (scalar : v.IsScalar fun n => ¬ n.isNaN) :
    ((Cell.ofValue v).value == v) = true ↔ ∀ kind, ¬ v.Spells kind := by
  refine ⟨fun same kind spelled => ?_, value_ofValue_beq scalar⟩
  rw [value_ofValue_of_spells spelled] at same
  obtain ⟨s, rfl, -⟩ := spelled
  exact Bool.false_ne_true same

end Cells

/-! ## Sessions -/

section Sessions

variable {s : Session} {anchor : Position} {sheet : String} {v : Value} {N : Number → Prop}

/-- A scalar is written as it is, unless results may not have even one cell. -/
theorem Value.IsScalar.spill {limit : Nat} (scalar : v.IsScalar N) (room : 0 < limit) :
    (Operand.value v).spill limit = [(0, 0, v)] := by
  have fits : ¬ limit < cellCount 1 1 := Nat.not_lt.mpr room
  rw [Operand.spill, scalar.shape, if_neg fits]
  cases scalar <;> rfl

/-- What references read at a position where a scalar has been written. -/
theorem Session.readCell_write (scalar : v.IsScalar N)
    (room : 0 < s.config.options.maxSpillCells) :
    readCell (s.write anchor sheet (.value v)).layers s.config.unit sheet anchor =
      (Cell.ofValue v).value := by
  have written : (s.write anchor sheet (.value v)).runtime.cell? s.config.unit sheet anchor =
      some (.ofValue v) := by
    rw [write, scalar.spill room]
    exact CellStore.cell?_setCell.trans (if_pos ⟨rfl, rfl, rfl⟩)
  rw [readCell_layers, written]
  rfl

/-- A reference to a single position has the value that is read there. -/
theorem Reference.force_single {unit : String} {layers : Layers} :
    Reference.force ⟨unit, sheet, .single anchor, layers⟩ = readCell layers unit sheet anchor := by
  have size : (Range.single anchor).size = 1 := by
    simp [Range.size, Range.rows, Range.columns, Range.single, Range.between, cellCount,
      greatestCount]
  have corner : (Range.single anchor).offset 0 0 = anchor := by
    simp [Range.offset, Range.single, Range.between]
  rw [force, isCell, decide_eq_true size, if_pos rfl, corner, read]

/-- Reading back what has been written. After a scalar has been written into a cell, every reference
that is evaluated reads one value there, alone or in a range. It equals the scalar, unless that is a
text that spells an error: then it is the error. -/
theorem Session.read_after_write (scalar : v.IsScalar fun n => ¬ n.isNaN)
    (room : 0 < s.config.options.maxSpillCells) :
    let after := s.write anchor sheet (.value v)
    ∃ w : Value, ((w == v) = true ↔ ∀ kind, ¬ v.Spells kind) ∧
      (∀ kind, v.Spells kind → w = .ofErrorKind kind) ∧
      ∀ awaiting token range kept environment,
        let x := (after.evaluate awaiting
          (some ⟨.reference token s.config.unit sheet range kept, environment⟩)).result
        (range = .single anchor → x.force = w) ∧
          ∀ row column, row < range.rows → column < range.columns →
            range.offset row column = anchor → x.cell? row column = some w := by
  intro after
  have read : readCell after.layers s.config.unit sheet anchor = (Cell.ofValue v).value :=
    readCell_write scalar room
  refine ⟨(Cell.ofValue v).value, Value.value_ofValue_beq_iff scalar,
    fun kind => Value.value_ofValue_of_spells, ?_⟩
  intro awaiting token range kept environment x
  have result : x = .reference ⟨s.config.unit, sheet, range, after.layers⟩ := by
    cases awaiting <;> rfl
  rw [result]
  constructor
  · rintro rfl
    exact Reference.force_single.trans read
  · intro row column above inside here
    change Reference.valueAt? _ row column = _
    rw [Reference.valueAt?, if_pos ⟨above, inside⟩, Reference.read, here]
    exact congrArg some read

/-- A text that looks like a number is read back as a text. -/
theorem Session.read_after_write_numeral :
    let s : Session := { config := { unit := "book", sheet := "one" } }
    let after := s.write ⟨2, 1⟩ "two" (.value (.text " 12"))
    let x := (after.evaluate false
      (some ⟨.reference "B3" "book" "two" (.single ⟨2, 1⟩) none, {}⟩)).result
    (Value.text " 12").IsScalar (fun n => ¬ n.isNaN) ∧ 0 < s.config.options.maxSpillCells ∧
      (x.force == .text " 12") = true := by
  intro s after x
  have scalar : (Value.text " 12").IsScalar fun n => ¬ n.isNaN := .text " 12"
  have room : 0 < s.config.options.maxSpillCells := by decide
  obtain ⟨w, same, -, reads⟩ := @read_after_write s ⟨2, 1⟩ "two" _ scalar room
  have plain : ∀ kind, ¬ (Value.text " 12").Spells kind := by
    rintro kind ⟨t, same, spelled⟩
    cases same
    have unread : ∀ kind ∈ ErrorKind.all,
        ¬ equalIgnoringAsciiCase kind.token (trimText " 12") := by
      decide +kernel
    exact unread kind kind.mem_all spelled
  have value : x.force = w := (reads false "B3" (.single ⟨2, 1⟩) none {}).1 rfl
  exact ⟨scalar, room, value ▸ same.mpr plain⟩

/-- The text of an error is read back as the error. -/
theorem Session.read_after_write_token :
    let s : Session := { config := { unit := "book", sheet := "one" } }
    let after := s.write ⟨0, 0⟩ "one" (.value (.text "#N/A"))
    let x := (after.evaluate false
      (some ⟨.reference "A1" "book" "one" (.single ⟨0, 0⟩) none, {}⟩)).result
    (x.force == .text "#N/A") = false := by
  decide +kernel

end Sessions

end Spreadsheet
