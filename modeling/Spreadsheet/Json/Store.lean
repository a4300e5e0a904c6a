import Spreadsheet.Json.Value
import Spreadsheet.Store.CellStore

/-!
Stored forms of cells, sheets, stores and ranges. A sheet is an object of rows by number, each an
object of cells by column.
-/

namespace Spreadsheet

/-- Raw content as a plain truth value, string or number. -/
def RawValue.toJson : RawValue → Json
  | .bool b => .bool b
  | .text s => .str s
  | .number n => n.toJson

/-- Reads raw content; a string is always a text. -/
def RawValue.ofJson? : Json → Option RawValue
  | .bool b => some (.bool b)
  | .str s => some (.text s)
  | j => (Number.ofJson? j).map .number

def CellTag.ofJson? (j : Json) : Option CellTag :=
  j.toNat? >>= CellTag.ofCode?

def Cell.toJson (c : Cell) : Json :=
  .ofFields [("v", c.content.map RawValue.toJson), ("t", c.tag.map fun tag => .ofNat tag.code)]

/-- Reads a cell; content and tag may be missing. -/
def Cell.ofJson? (j : Json) : Option Cell := do
  let fields ← j.record? ["v", "t"]
  let content ← Json.optional? RawValue.ofJson? (fields.lookup "v")
  let tag ← Json.optional? CellTag.ofJson? (fields.lookup "t")
  return ⟨content, tag⟩

/-- Sorted entries grouped by row. -/
def rowGroups : List (Position × Cell) → List (Nat × List (Nat × Cell))
  | [] => []
  | (p, c) :: rest =>
    match rowGroups rest with
    | (row, cells) :: later =>
      if row = p.row then (row, (p.column, c) :: cells) :: later
      else (p.row, [(p.column, c)]) :: (row, cells) :: later
    | [] => [(p.row, [(p.column, c)])]

def Sheet.toJson (s : Sheet) : Json :=
  .obj ((rowGroups s.entries).map fun (row, cells) =>
    (toString row, .obj (cells.map fun (column, c) => (toString column, c.toJson))))

def rowEntries? (row : Nat) (j : Json) : Option (List (Position × Cell)) := do
  (← j.toFields?).mapM fun (key, cell) => do
    return (⟨row, ← natOfKey? key⟩, ← Cell.ofJson? cell)

def Sheet.ofJson? (j : Json) : Option Sheet := do
  let rows ← (← j.toFields?).mapM fun (key, cells) => do rowEntries? (← natOfKey? key) cells
  return .ofEntries rows.flatten

/-- A store as an object of units, each an object of sheets. -/
def CellStore.toJson (store : CellStore) : Json :=
  .obj (store.units.map fun (unit, sheets) =>
    (unit, .obj (sheets.map fun (name, s) => (name, s.toJson))))

def CellStore.ofJson? (j : Json) : Option CellStore := do
  let units ← (← j.toFields?).mapM fun (unit, sheets) => do
    return (unit, ← (← sheets.toFields?).mapM fun (name, s) => do return (name, ← Sheet.ofJson? s))
  return ⟨units⟩

def Range.toJson (r : Range) : Json :=
  .obj [("start_row", .ofNat r.top), ("start_column", .ofNat r.left), ("end_row", .ofNat r.bottom),
    ("end_column", .ofNat r.right)]

/-- Reads a range; the corners stay as they are. -/
def Range.ofJson? (j : Json) : Option Range := do
  let fields ← j.record? ["start_row", "start_column", "end_row", "end_column"]
  let bound := fun name => fields.lookup name >>= Json.toNat?
  return ⟨← bound "start_row", ← bound "start_column", ← bound "end_row", ← bound "end_column"⟩

end Spreadsheet
