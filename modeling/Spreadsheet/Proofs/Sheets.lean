import Spreadsheet.Store.CellStore

/-!
# Sheets as maps

A sheet is known by its cells (`Sheet.ext_get?`): there is one way to lay out rows that end where
their cells do. Its entries are the positions that have a cell (`Sheet.mem_entries`), row by row
(`Sheet.pairwise_entries`), and the sheet is made from them again (`Sheet.ofEntries_entries`).
-/

namespace Spreadsheet

/-! ## Lists with gaps -/

/-- Lists that do not end in a filler have one length if they are related at all places, the places
beyond their ends holding the filler, and nothing else is related to the filler. -/
theorem length_eq_of_getElem?_getD {α : Type} {R : α → α → Prop} {filler : α} {l l' : List α}
    (strict : ∀ x, R x filler → x = filler) (strict' : ∀ x, R filler x → x = filler)
    (ends : l.getLast? ≠ some filler) (ends' : l'.getLast? ≠ some filler)
    (same : ∀ i : Nat, R (l[i]?.getD filler) (l'[i]?.getD filler)) : l.length = l'.length := by
  -- A longer list would end in a filler, as the shorter one has nothing there.
  have not_longer : ∀ {k k' : List α} {R : α → α → Prop}, (∀ x, R x filler → x = filler) →
      k.getLast? ≠ some filler → (∀ i : Nat, R (k[i]?.getD filler) (k'[i]?.getD filler)) →
      k.length ≤ k'.length := by
    intro k k' R strict ends same
    apply Nat.le_of_not_lt
    intro longer
    have last := same (k.length - 1)
    rw [List.getElem?_eq_getElem (by omega), List.getElem?_eq_none (by omega)] at last
    rw [List.getLast?_eq_getElem?, List.getElem?_eq_getElem (by omega)] at ends
    exact ends (congrArg some (strict _ last))
  exact Nat.le_antisymm (not_longer strict ends same)
    (not_longer (R := fun x y => R y x) strict' ends' same)

/-- Lists that do not end in a filler are equal when they agree at all places. -/
theorem eq_of_getElem?_getD_eq {α : Type} {filler : α} {l l' : List α}
    (ends : l.getLast? ≠ some filler) (ends' : l'.getLast? ≠ some filler)
    (same : ∀ i : Nat, l[i]?.getD filler = l'[i]?.getD filler) : l = l' := by
  have length : l.length = l'.length :=
    length_eq_of_getElem?_getD (fun _ => id) (fun _ => Eq.symm) ends ends' same
  apply List.ext_getElem length
  intro i inside inside'
  have here := same i
  rwa [List.getElem?_eq_getElem inside, List.getElem?_eq_getElem inside'] at here

/-- The entry of a key, when all entries of that key are alike. -/
theorem lookup_eq_of_mem_iff {α β : Type} [DecidableEq α] {entries : List (α × β)} {key : α}
    {found : Option β} (entry : ∀ x, (key, x) ∈ entries ↔ found = some x) :
    entries.lookup key = found := by
  cases first : entries.lookup key with
  | none =>
    cases found with
    | none => rfl
    | some x =>
      have missing := List.lookup_eq_none_iff.mp first _ ((entry x).mpr rfl)
      simp at missing
  | some x =>
    obtain ⟨before, after, split, -⟩ := List.lookup_eq_some_iff.mp first
    exact ((entry x).mp (by simp [split])).symm

/-! ## Sheets -/

section Sheets

variable {s t : Sheet} {p : Position} {c : Cell} {f : Cell → Cell}

theorem Sheet.get?_eq_getD : s.get? p = ((s.rows[p.row]?.getD [])[p.column]?).getD none := by
  rw [get?]
  cases s.rows[p.row]? with
  | none => rfl
  | some row => cases here : row[p.column]? <;> simp [here]

theorem Sheet.get?_eq_some_iff :
    s.get? p = some c ↔ ∃ row, s.rows[p.row]? = some row ∧ row[p.column]? = some (some c) := by
  rw [get?, Option.join_eq_some_iff, Option.bind_eq_some_iff]

/-- No row ends in a gap, those beyond the last one included. -/
theorem Sheet.getLast?_row_ne (s : Sheet) (r : Nat) :
    (s.rows[r]?.getD []).getLast? ≠ some none := by
  cases row : s.rows[r]? with
  | none => simp
  | some cells => exact s.tight.right cells (List.mem_of_getElem? row)

/-- Sheets with the same cells are the same. -/
theorem Sheet.ext_get? (same : ∀ p, s.get? p = t.get? p) : s = t := by
  have row : ∀ r : Nat, s.rows[r]?.getD [] = t.rows[r]?.getD [] := by
    intro r
    apply eq_of_getElem?_getD_eq (s.getLast?_row_ne r) (t.getLast?_row_ne r)
    intro column
    have here := same ⟨r, column⟩
    rwa [get?_eq_getD, get?_eq_getD] at here
  have rows := eq_of_getElem?_getD_eq s.tight.bottom t.tight.bottom row
  rcases s with ⟨rows, tight⟩
  cases rows
  rfl

/-- The entries of a sheet are its cells. -/
theorem Sheet.mem_entries : (p, c) ∈ s.entries ↔ s.get? p = some c := by
  rcases p with ⟨r, column⟩
  simp only [entries, get?_eq_some_iff, List.mem_flatMap, List.mem_filterMap, Prod.exists,
    List.mk_mem_zipIdx_iff_getElem?, Option.map_eq_some_iff, Prod.mk.injEq, Position.mk.injEq]
  constructor
  · rintro ⟨row, r, here, content, column, cell, c, rfl, ⟨rfl, rfl⟩, rfl⟩
    exact ⟨row, here, cell⟩
  · rintro ⟨row, here, cell⟩
    exact ⟨row, r, here, some c, column, cell, c, rfl, ⟨rfl, rfl⟩, rfl⟩

/-- Whatever is written entry by entry has, at a position, the last of the entries there, or else
what it had before. -/
theorem get_foldl {Store : Type} {get : Store → Position → Option Cell}
    {put : Store → Position → Cell → Store} {store : Store}
    (get_put : ∀ store p c q, get (put store p c) q = if q = p then some c else get store q)
    {entries : List (Position × Cell)} :
    get (entries.foldl (fun store entry => put store entry.1 entry.2) store) p =
      (entries.reverse.lookup p).or (get store p) := by
  induction entries generalizing store with
  | nil => simp
  | cons entry rest ih =>
    rw [List.foldl_cons, ih, get_put, List.reverse_cons, List.lookup_append, Option.or_assoc]
    congr 1
    rcases entry with ⟨q, c⟩
    by_cases here : p = q
    · simp [here]
    · simp [List.lookup_cons, here, beq_eq_false_iff_ne.mpr here]

/-- Of several entries at one position the last one stays. -/
theorem Sheet.get?_ofEntries {entries : List (Position × Cell)} :
    (ofEntries entries).get? p = entries.reverse.lookup p := by
  rw [ofEntries, get_foldl fun _ _ _ _ => get?_set, get?_empty, Option.or_none]

/-- Every cell of a sheet made from entries is one of them. -/
theorem Sheet.mem_of_get?_ofEntries {entries : List (Position × Cell)}
    (here : (ofEntries entries).get? p = some c) : (p, c) ∈ entries := by
  rw [get?_ofEntries] at here
  obtain ⟨before, after, split, -⟩ := List.lookup_eq_some_iff.mp here
  rw [← List.mem_reverse, split]
  simp

/-- A sheet is made again from its entries. -/
theorem Sheet.ofEntries_entries : ofEntries s.entries = s := by
  apply ext_get?
  intro p
  rw [get?_ofEntries]
  apply lookup_eq_of_mem_iff
  intro c
  rw [List.mem_reverse, mem_entries]

/-! ## Order of cells -/

/-- The places of a list are numbered in their order. -/
theorem pairwise_zipIdx {α : Type} (l : List α) : l.zipIdx.Pairwise fun x y => x.2 < y.2 := by
  rw [← List.pairwise_map (f := Prod.snd) (R := (· < ·)), List.zipIdx_map_snd]
  exact List.pairwise_lt_range' 1

/-- The cells of a sheet are listed row by row. -/
theorem Sheet.pairwise_entries (s : Sheet) :
    s.entries.Pairwise fun e f => e.1.Precedes f.1 := by
  rw [entries, List.pairwise_flatMap]
  constructor
  · rintro ⟨row, r⟩ -
    rw [List.pairwise_filterMap]
    refine (pairwise_zipIdx row).imp ?_
    rintro ⟨c?, i⟩ ⟨d?, j⟩ before e entry f entry'
    obtain ⟨c, -, rfl⟩ := Option.map_eq_some_iff.mp entry
    obtain ⟨d, -, rfl⟩ := Option.map_eq_some_iff.mp entry'
    exact .inr ⟨rfl, before⟩
  · refine (pairwise_zipIdx s.rows).imp ?_
    rintro ⟨row, r⟩ ⟨row', r'⟩ before e entry f entry'
    obtain ⟨_, -, here⟩ := List.mem_filterMap.mp entry
    obtain ⟨_, -, here'⟩ := List.mem_filterMap.mp entry'
    obtain ⟨_, -, rfl⟩ := Option.map_eq_some_iff.mp here
    obtain ⟨_, -, rfl⟩ := Option.map_eq_some_iff.mp here'
    exact .inl before

/-! ## Changing every cell -/

theorem TightRows.map {rows : List (List (Option Cell))} (tight : TightRows rows) :
    TightRows (rows.map (List.map (Option.map f))) where
  bottom := by
    have bottom := tight.bottom
    rw [List.getLast?_map]
    intro empty
    obtain ⟨row, last, none_left⟩ := Option.map_eq_some_iff.mp empty
    rw [List.map_eq_nil_iff.mp none_left] at last
    exact bottom last
  right := by
    intro row member gap
    obtain ⟨row, here, rfl⟩ := List.mem_map.mp member
    rw [List.getLast?_map] at gap
    obtain ⟨content, last, missing⟩ := Option.map_eq_some_iff.mp gap
    rw [Option.map_eq_none_iff.mp missing] at last
    exact tight.right row here last

/-- The sheet with every cell changed in one way. -/
def Sheet.map (f : Cell → Cell) (s : Sheet) : Sheet :=
  ⟨s.rows.map (List.map (Option.map f)), s.tight.map⟩

theorem Sheet.get?_map : (s.map f).get? p = (s.get? p).map f := by
  simp only [get?, map, List.getElem?_map]
  cases s.rows[p.row]? with
  | none => rfl
  | some row =>
    simp only [Option.map_some, Option.bind_some, List.getElem?_map]
    cases row[p.column]? <;> rfl

theorem Sheet.entries_map : (s.map f).entries = s.entries.map fun (p, c) => (p, f c) := by
  simp only [entries, map, List.zipIdx_map, List.flatMap_map, List.map_flatMap,
    List.map_filterMap, List.filterMap_map, Prod.map, Function.comp_def, Option.map_map, id_eq]

end Sheets

end Spreadsheet
