import Spreadsheet.Json.Store
import Spreadsheet.Proofs.DecimalForms
import Spreadsheet.Proofs.Operands
import Spreadsheet.Proofs.Sheets
import Spreadsheet.Proofs.ShortestDecimal

/-!
# Reading stored forms

The stored form of a cell is read as a cell with the same tag and content, but for numbers that are
neither integers of 64 bits nor the decimals of their doubles: such a number is stored as its double
and read as the decimal of that (`Cell.ofJson?_toJson`). A store is read cell by cell
(`CellStore.ofJson?_toJson`). Decimals of few digits are those of their doubles, so cells with them
are kept as they are (`stored_forms_read_back`).
-/

namespace Spreadsheet

/-- Reading a list of written elements, when each is read. -/
theorem mapM_map_eq_some {α β γ : Type} {write : α → β} {read : β → Option γ} {change : α → γ}
    {l : List α} (back : ∀ x ∈ l, read (write x) = some (change x)) :
    (l.map write).mapM read = some (l.map change) := by
  induction l with
  | nil => rfl
  | cons x rest ih =>
    rw [List.forall_mem_cons] at back
    rw [List.map_cons, List.mapM_cons, back.1, ih back.2]
    rfl

/-! ## Keys -/

theorem natOfChars?_toDigits {n : Nat} : natOfChars? (Nat.toDigits 10 n) = some n := by
  have digits : (Nat.toDigits 10 n).all Char.isDigit :=
    List.all_eq_true.mpr fun _ member => isDigit_of_mem_toDigits member
  rw [natOfChars?, if_pos ⟨Nat.toDigits_ne_nil, digits⟩, natOfDigits_toDigits]

/-- The key of a number of 64 bits is read as the number. -/
theorem natOfKey?_toString {n : Nat} (small : n < 2 ^ 64) : natOfKey? (toString n) = some n := by
  have key : (toString n).toList = Nat.toDigits 10 n := Nat.toList_repr
  rw [natOfKey?, key, natOfChars?_toDigits]
  exact if_pos ⟨small, rfl⟩

/-! ## Numbers -/

/-- Whether a number has a stored form that is a number: it is an integer of 64 bits, or has a
finite double. -/
def Number.StoredAsNumber (n : Number) : Prop :=
  n.toInt64?.isSome ∨ ∃ x, n.toBinary64? = some x ∧ x.isFinite

/-- What is read from the stored form of a number: an integer of 64 bits as it is, another number as
the decimal of its double. -/
def Number.kept (n : Number) : Number :=
  if n.toInt64?.isSome then n else .ofBinary64 n.toBinary64

section Numbers

variable {n : Number}

/-- A stored number is an integer or a double, and is read as what is kept of it. -/
theorem Number.StoredAsNumber.forms (stored : n.StoredAsNumber) :
    (∃ i, n.toJson = .int i ∧ ofJson? (.int i) = some n.kept) ∨
      ∃ x, n.toJson = .float x ∧ ofJson? (.float x) = some n.kept := by
  cases integer : n.toInt64? with
  | some i =>
    refine .inl ⟨i, by rw [toJson, integer], ?_⟩
    cases n with
    | decimal x =>
      obtain ⟨small, same⟩ := ofInt_of_toInt64? integer
      simp [ofJson?, kept, integer, small, same]
    | infinity _ | nan => cases integer
  | none =>
    have view : ∃ x, n.toBinary64? = some x ∧ x.isFinite := by
      simpa [StoredAsNumber, integer] using stored
    obtain ⟨x, double, finite⟩ := view
    refine .inr ⟨x, by rw [toJson, integer, double]; exact if_pos finite, ?_⟩
    simp [ofJson?, kept, integer, toBinary64, double]

/-- Whether a number is an integer of 64 bits or a decimal of few digits. -/
def Number.Plain (n : Number) : Prop :=
  n.toInt64?.isSome ∨ ∃ x, n = .decimal x ∧ x.FewDigits

/-- A plain number is stored as a number and read as itself. -/
theorem Number.Plain.kept_eq (plain : n.Plain) : n.StoredAsNumber ∧ n.kept = n := by
  cases integer : n.toInt64? with
  | some i => exact ⟨.inl (by simp [integer]), by simp [kept, integer]⟩
  | none =>
    have decimal : ∃ x, n = .decimal x ∧ x.FewDigits := by simpa [Plain, integer] using plain
    obtain ⟨x, rfl, few⟩ := decimal
    obtain ⟨m, e, double, same⟩ :=
      few.ofDouble_toBinary64? (Decimal.coeff_ne_zero_of_toInt64? integer)
    have view : (decimal x).toBinary64? = some (.finite (x.coeff < 0) m e) := double
    refine ⟨.inr ⟨_, view, rfl⟩, ?_⟩
    rw [kept, integer, toBinary64, view]
    exact congrArg decimal same

end Numbers

/-! ## Cells -/

/-- What is read from the stored form of content. -/
def RawValue.kept : RawValue → RawValue
  | .number n => .number n.kept
  | .bool b => .bool b
  | .text s => .text s

/-- What is read from the stored form of a cell. -/
def Cell.kept (c : Cell) : Cell :=
  { c with content := c.content.map RawValue.kept }

section Cells

variable {c : Cell} {raw : RawValue}

/-- The stored form of content is read as what is kept of it, and is never taken for a missing
one. -/
theorem RawValue.optional?_toJson (stored : ∀ n, raw = .number n → n.StoredAsNumber) :
    Json.optional? ofJson? (some raw.toJson) = some (some raw.kept) := by
  cases raw with
  | bool b => rfl
  | text s => rfl
  | number n =>
    obtain ⟨i, form, back⟩ | ⟨x, form, back⟩ := (stored n rfl).forms <;>
      simp [toJson, form, Json.optional?, ofJson?, back, kept]

theorem CellTag.optional?_code (tag : CellTag) :
    Json.optional? ofJson? (some (.ofNat tag.code)) = some (some tag) := by
  cases tag <;> rfl

/-- The fields of a cell are found by their names, as far as they are there. -/
theorem lookup_cellFields {content tag : Option Json} {fields : List (String × Json)}
    (record : (Json.ofFields [("v", content), ("t", tag)]).record? ["v", "t"] = some fields) :
    fields.lookup "v" = content ∧ fields.lookup "t" = tag := by
  cases content <;> cases tag <;> cases record <;> exact ⟨rfl, rfl⟩

/-- The stored form of a cell is read as what is kept of the cell. -/
theorem Cell.ofJson?_toJson (stored : c.Holds Number.StoredAsNumber) :
    ofJson? c.toJson = some c.kept := by
  have content_form : Json.optional? RawValue.ofJson? (c.content.map RawValue.toJson) =
      some c.kept.content := by
    cases content : c.content with
    | none => simp [kept, content, Json.optional?]
    | some raw =>
      have kind : ∀ n, raw = .number n → n.StoredAsNumber := by
        rintro n rfl
        exact stored n content
      simpa [kept, content] using RawValue.optional?_toJson kind
  have tag_form : Json.optional? CellTag.ofJson? (c.tag.map fun tag => .ofNat tag.code) =
      some c.tag := by
    cases c.tag with
    | none => rfl
    | some tag => exact tag.optional?_code
  obtain ⟨fields, record⟩ : ∃ fields, c.toJson.record? ["v", "t"] = some fields := ⟨_, rfl⟩
  obtain ⟨value, tag⟩ := lookup_cellFields record
  rw [ofJson?, record]
  simp only [Option.bind_eq_bind, Option.bind_some, value, tag, content_form, tag_form]
  rfl

end Cells

/-! ## Sheets -/

/-- The entries of a group of cells in one row. -/
def groupEntries (group : Nat × List (Nat × Cell)) : List (Position × Cell) :=
  group.2.map fun (column, c) => (⟨group.1, column⟩, c)

section Sheets

variable {entries : List (Position × Cell)} {s : Sheet}

/-- The groups have the entries that have been grouped, in their order. -/
theorem flatMap_rowGroups (entries : List (Position × Cell)) :
    (rowGroups entries).flatMap groupEntries = entries := by
  induction entries with
  | nil => rfl
  | cons entry rest ih =>
    rcases entry with ⟨p, c⟩
    rw [rowGroups]
    cases groups : rowGroups rest with
    | nil => simpa [groups, groupEntries] using ih
    | cons group later =>
      rcases group with ⟨row, cells⟩
      rw [groups, List.flatMap_cons] at ih
      by_cases same : row = p.row
      · simp only [if_pos same, List.flatMap_cons]
        rw [groupEntries, List.map_cons, List.cons_append, same]
        exact congrArg _ (same ▸ ih)
      · simp only [if_neg same, List.flatMap_cons]
        exact congrArg _ ih

/-- Every group is of a row that has an entry. -/
theorem exists_of_mem_rowGroups {group : Nat × List (Nat × Cell)}
    (member : group ∈ rowGroups entries) : ∃ entry ∈ entries, entry.1.row = group.1 := by
  induction entries with
  | nil => cases member
  | cons entry rest ih =>
    rcases entry with ⟨p, c⟩
    have earlier : group ∈ rowGroups rest → ∃ entry ∈ (p, c) :: rest, entry.1.row = group.1 :=
      fun member => (ih member).imp fun _ found => ⟨List.mem_cons_of_mem _ found.1, found.2⟩
    have first : p.row = group.1 → ∃ entry ∈ (p, c) :: rest, entry.1.row = group.1 :=
      fun same => ⟨(p, c), List.mem_cons_self, same⟩
    rw [rowGroups] at member
    cases groups : rowGroups rest with
    | nil =>
      rw [groups, List.mem_singleton] at member
      exact first (by rw [member])
    | cons next later =>
      simp only [groups] at member earlier
      split at member
      next same =>
        obtain rfl | after := List.mem_cons.mp member
        · exact first same.symm
        · exact earlier (List.mem_cons_of_mem _ after)
      next =>
        obtain rfl | after := List.mem_cons.mp member
        · exact first rfl
        · exact earlier after

/-- Whether the cells of a sheet lie in rows and columns of 64 bits and keep numbers of one kind. -/
def Sheet.Keeps (N : Number → Prop) (s : Sheet) : Prop :=
  ∀ p c, s.get? p = some c → p.row < 2 ^ 64 ∧ p.column < 2 ^ 64 ∧ c.Holds N

/-- The stored form of a row is read as what is kept of its cells. -/
theorem rowEntries?_toJson {row : Nat} {cells : List (Nat × Cell)}
    (storable : ∀ cell ∈ cells, cell.1 < 2 ^ 64 ∧ cell.2.Holds Number.StoredAsNumber) :
    rowEntries? row (.obj (cells.map fun (column, c) => (toString column, c.toJson))) =
      some ((groupEntries (row, cells)).map fun (p, c) => (p, c.kept)) := by
  rw [rowEntries?, groupEntries, List.map_map]
  apply mapM_map_eq_some
  intro cell member
  obtain ⟨small, stored⟩ := storable cell member
  simp only [natOfKey?_toString small, Cell.ofJson?_toJson stored]
  rfl

/-- The stored form of a sheet is read as what is kept of its cells, at the same positions. -/
theorem Sheet.ofJson?_toJson (storable : s.Keeps Number.StoredAsNumber) :
    ofJson? s.toJson = some (s.map Cell.kept) := by
  let keptEntries := fun group => (groupEntries group).map fun (p, c) => (p, c.kept)
  have row : ∀ group ∈ rowGroups s.entries,
      (natOfKey? (toString group.1)).bind (rowEntries? ·
        (.obj (group.2.map fun (column, c) => (toString column, c.toJson)))) =
        some (keptEntries group) := by
    intro group member
    have cells : ∀ cell ∈ group.2, s.get? ⟨group.1, cell.1⟩ = some cell.2 := by
      intro cell inside
      rw [← mem_entries, ← flatMap_rowGroups s.entries]
      exact List.mem_flatMap.mpr ⟨group, member, List.mem_map.mpr ⟨cell, inside, rfl⟩⟩
    obtain ⟨⟨p, c⟩, entry, same⟩ := exists_of_mem_rowGroups member
    have small : group.1 < 2 ^ 64 := same ▸ (storable p c (mem_entries.mp entry)).1
    rw [natOfKey?_toString small]
    exact rowEntries?_toJson fun cell inside => (storable _ _ (cells cell inside)).2
  have read :
      ofJson? s.toJson = some (ofEntries ((rowGroups s.entries).map keptEntries).flatten) := by
    simp only [ofJson?, toJson, Json.toFields?, Option.bind_eq_bind, Option.bind_some]
    exact Option.bind_eq_some_iff.mpr
      ⟨(rowGroups s.entries).map keptEntries, mapM_map_eq_some row, rfl⟩
  have entries : ((rowGroups s.entries).map keptEntries).flatten = (s.map Cell.kept).entries := by
    rw [← List.flatMap_def, entries_map, ← List.map_flatMap, flatMap_rowGroups]
  rw [read, entries, ofEntries_entries]

end Sheets

/-! ## Stores -/

/-- The store with every cell changed in one way. -/
def CellStore.map (f : Cell → Cell) (store : CellStore) : CellStore :=
  ⟨store.units.map fun (unit, sheets) => (unit, sheets.map fun (name, s) => (name, s.map f))⟩

/-- Whether all sheets of a store keep numbers of one kind in rows and columns of 64 bits. -/
def CellStore.Keeps (N : Number → Prop) (store : CellStore) : Prop :=
  ∀ unit ∈ store.units, ∀ sheet ∈ unit.2, sheet.2.Keeps N

section Stores

variable {store : CellStore}

/-- The stored form of a store is read as what is kept of its cells, at the same positions. -/
theorem CellStore.ofJson?_toJson (storable : store.Keeps Number.StoredAsNumber) :
    ofJson? store.toJson = some (store.map Cell.kept) := by
  simp only [ofJson?, toJson, Json.toFields?, Option.bind_eq_bind, Option.bind_some]
  refine Option.bind_eq_some_iff.mpr ⟨(store.map Cell.kept).units, mapM_map_eq_some ?_, rfl⟩
  intro unit known
  simp only [Option.bind_some]
  refine Option.bind_eq_some_iff.mpr
    ⟨unit.2.map fun (name, s) => (name, s.map Cell.kept), mapM_map_eq_some ?_, rfl⟩
  intro sheet member
  exact Option.bind_eq_some_iff.mpr
    ⟨sheet.2.map Cell.kept, Sheet.ofJson?_toJson (storable unit known sheet member), rfl⟩

end Stores

/-! ## Cells that stay as they are -/

section Plain

theorem Cell.Holds.imp {N M : Number → Prop} {c : Cell} (holds : c.Holds N)
    (weaker : ∀ n, N n → M n) : c.Holds M :=
  fun n content => weaker n (holds n content)

theorem CellStore.Keeps.imp {N M : Number → Prop} {store : CellStore} (keeps : store.Keeps N)
    (weaker : ∀ n, N n → M n) : store.Keeps M := by
  intro unit known sheet member p c here
  obtain ⟨row, column, holds⟩ := keeps unit known sheet member p c here
  exact ⟨row, column, holds.imp weaker⟩

theorem Cell.Holds.kept_eq {c : Cell} (plain : c.Holds Number.Plain) : c.kept = c := by
  rcases c with ⟨content, tag⟩
  match content with
  | some (.number n) =>
    have same : n.kept = n := (plain n rfl).kept_eq.2
    simp [Cell.kept, RawValue.kept, same]
  | some (.bool _) | some (.text _) | none => rfl

theorem CellStore.Keeps.map_kept_eq {store : CellStore} (plain : store.Keeps Number.Plain) :
    store.map Cell.kept = store := by
  have sheet : ∀ unit ∈ store.units, ∀ sheet ∈ unit.2, sheet.2.map Cell.kept = sheet.2 := by
    intro unit known sheet member
    apply Sheet.ext_get?
    intro p
    rw [Sheet.get?_map]
    cases here : sheet.2.get? p with
    | none => rfl
    | some c => exact congrArg some (plain unit known sheet member p c here).2.2.kept_eq
  have sheets : ∀ unit ∈ store.units,
      unit.2.map (fun (name, s) => (name, s.map Cell.kept)) = unit.2 := by
    intro unit known
    refine (List.map_congr_left fun named member => ?_).trans (List.map_id _)
    exact congrArg (Prod.mk named.1) (sheet unit known named member)
  refine congrArg CellStore.mk ((List.map_congr_left fun unit known => ?_).trans (List.map_id _))
  exact congrArg (Prod.mk unit.1) (sheets unit known)

/-- Stored forms are read back: of every cell and every store with numbers that are stored as
numbers, what is kept of it; and of one with plain numbers, the cell or the store itself. -/
theorem stored_forms_read_back :
    (∀ c : Cell, c.Holds Number.StoredAsNumber → Cell.ofJson? c.toJson = some c.kept) ∧
    (∀ store : CellStore, store.Keeps Number.StoredAsNumber →
      CellStore.ofJson? store.toJson = some (store.map Cell.kept)) ∧
    (∀ c : Cell, c.Holds Number.Plain → Cell.ofJson? c.toJson = some c) ∧
    (∀ store : CellStore, store.Keeps Number.Plain →
      CellStore.ofJson? store.toJson = some store) := by
  have stored : ∀ n : Number, n.Plain → n.StoredAsNumber := fun n plain => plain.kept_eq.1
  refine ⟨fun _ => Cell.ofJson?_toJson, fun _ => CellStore.ofJson?_toJson, ?_, ?_⟩
  · intro c plain
    rw [Cell.ofJson?_toJson (plain.imp stored), plain.kept_eq]
  · intro store plain
    rw [CellStore.ofJson?_toJson (plain.imp stored), plain.map_kept_eq]

/-- A store with a fraction, the greatest integer of 64 bits and a text that looks like a number is
read back. -/
theorem stored_forms_read_back_fraction :
    let sheet := Sheet.ofEntries [(⟨0, 0⟩, .ofNumber (.decimal (.ofScaled 1 (-1)))),
      (⟨3, 1⟩, ⟨some (.number (.ofInt (2 ^ 63 - 1))), none⟩),
      (⟨3, 2⟩, ⟨some (.text "12"), some .number⟩)]
    let store : CellStore := ⟨[("book", [("sheet1", sheet)])]⟩
    store.Keeps Number.Plain ∧ CellStore.ofJson? store.toJson = some store := by
  intro sheet store
  have fraction : (Number.decimal (.ofScaled 1 (-1))).Plain :=
    .inr ⟨_, rfl, by decide +kernel, by decide +kernel, by decide +kernel⟩
  have integer : (Number.ofInt (2 ^ 63 - 1)).Plain := .inl (by decide +kernel)
  have plain : store.Keeps Number.Plain := by
    rintro unit (_ | ⟨_, ⟨⟩⟩) named (_ | ⟨_, ⟨⟩⟩) p c here
    have entry := Sheet.mem_of_get?_ofEntries here
    simp only [List.mem_cons, Prod.mk.injEq, List.not_mem_nil, or_false] at entry
    obtain ⟨rfl, rfl⟩ | ⟨rfl, rfl⟩ | ⟨rfl, rfl⟩ := entry
    · exact ⟨by decide, by decide, fun n content => by cases content; exact fraction⟩
    · exact ⟨by decide, by decide, fun n content => by cases content; exact integer⟩
    · exact ⟨by decide, by decide, fun n content => by cases content⟩
  exact ⟨plain, stored_forms_read_back.2.2.2 store plain⟩

/-- A decimal with more digits than its double tells apart is not read back. -/
theorem stored_forms_read_back_wide :
    let wide := Number.decimal (.ofScaled 1234567890123456789 (-19))
    ∃ other, Cell.ofJson? (Cell.ofNumber wide).toJson = some (.ofNumber other) ∧
      other.equal wide = false := by
  intro wide
  have form : (Cell.ofNumber wide).Holds Number.StoredAsNumber := by
    intro n content
    cases content
    exact .inr ⟨wide.toBinary64, by decide +kernel, by decide +kernel⟩
  exact ⟨wide.kept, Cell.ofJson?_toJson form, by decide +kernel⟩

end Plain

end Spreadsheet
