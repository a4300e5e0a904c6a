import Spreadsheet.Store.Sheet

/-!
Stores of cells: sheets by name, grouped by the unit that they belong to.
-/

namespace Spreadsheet

/-- Changes the entry of a key, or makes one at the end. -/
def alterEntry {α : Type} (key : String) (change : Option α → α) :
    List (String × α) → List (String × α)
  | [] => [(key, change none)]
  | (k, x) :: rest =>
    if k = key then (k, change (some x)) :: rest else (k, x) :: alterEntry key change rest

/-- The sheets of several units. -/
structure CellStore where
  units : List (String × List (String × Sheet)) := []

instance : Inhabited CellStore := ⟨{}⟩

def CellStore.sheet? (store : CellStore) (unit sheet : String) : Option Sheet :=
  store.units.lookup unit >>= (·.lookup sheet)

/-- The store with a sheet changed; one that is missing is made from an empty one. -/
def CellStore.modifySheet (store : CellStore) (unit sheet : String) (change : Sheet → Sheet) :
    CellStore :=
  ⟨alterEntry unit (fun sheets? => alterEntry sheet (fun s? => change (s?.getD .empty))
    (sheets?.getD [])) store.units⟩

/-- The store with a sheet in place of an earlier one. -/
def CellStore.withSheet (store : CellStore) (unit sheet : String) (s : Sheet) : CellStore :=
  store.modifySheet unit sheet fun _ => s

def CellStore.cell? (store : CellStore) (unit sheet : String) (p : Position) : Option Cell :=
  store.sheet? unit sheet >>= (·.get? p)

def CellStore.setCell (store : CellStore) (unit sheet : String) (p : Position) (c : Cell) :
    CellStore :=
  store.modifySheet unit sheet (·.set p c)

/-- The entry of a key after a change. -/
theorem lookup_alterEntry {α : Type} {key other : String} {change : Option α → α}
    {entries : List (String × α)} :
    (alterEntry key change entries).lookup other =
      if other = key then some (change (entries.lookup key)) else entries.lookup other := by
  induction entries with
  | nil => grind [alterEntry]
  | cons head rest ih =>
    rcases head with ⟨k, x⟩
    grind [alterEntry]

/-- A sheet that has been changed is found, and all others are as before. -/
theorem CellStore.sheet?_modifySheet {store : CellStore} {unit sheet unit' sheet' : String}
    {change : Sheet → Sheet} :
    (store.modifySheet unit sheet change).sheet? unit' sheet' =
      if unit' = unit ∧ sheet' = sheet then
        some (change ((store.sheet? unit sheet).getD .empty))
      else store.sheet? unit' sheet' := by
  simp only [sheet?, modifySheet, lookup_alterEntry]
  by_cases sameUnit : unit' = unit
  · subst sameUnit
    cases store.units.lookup unit' <;> by_cases sameSheet : sheet' = sheet <;>
      simp [lookup_alterEntry, sameSheet]
  · simp [sameUnit]

/-- A cell that has been written is read back, and all others are as before. -/
theorem CellStore.cell?_setCell {store : CellStore} {unit sheet unit' sheet' : String}
    {p q : Position} {c : Cell} :
    (store.setCell unit sheet p c).cell? unit' sheet' q =
      if unit' = unit ∧ sheet' = sheet ∧ q = p then some c
      else store.cell? unit' sheet' q := by
  simp only [cell?, setCell, sheet?_modifySheet]
  by_cases same : unit' = unit ∧ sheet' = sheet
  · rcases same with ⟨rfl, rfl⟩
    cases store.sheet? unit' sheet' <;> simp [Sheet.get?_set]
  · have other : ¬ (unit' = unit ∧ sheet' = sheet ∧ q = p) := fun all => same ⟨all.1, all.2.1⟩
    rw [if_neg same, if_neg other]

def CellStore.isEmpty (store : CellStore) : Bool :=
  store.units.all fun unit => unit.2.isEmpty

end Spreadsheet
