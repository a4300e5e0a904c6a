import Spreadsheet.Json.Basic
import Spreadsheet.Value.Comparison

/-!
Stored forms of numbers, errors and values.
-/

namespace Spreadsheet

/-! ## Numbers -/

/-- A number as an integer if it is one of 64 bits, else as a double, else as its text. -/
def Number.toJson (n : Number) : Json :=
  match n.toInt64?, n.toBinary64? with
  | some i, _ => .int i
  | none, some x => if x.isFinite then .float x else .str n.toText
  | none, none => .str n.toText

/-- Reads a number from a number or a numeral. -/
def Number.ofJson? : Json → Option Number
  | .int n => some (if inInt64 n then .ofInt n else .ofBinary64 (.ofInt n))
  | .float x => some (.ofBinary64 x)
  | .str "Infinity" => some (.infinity false)
  | .str "-Infinity" => some (.infinity true)
  | .str s => (Number.ofText? s).toOption
  | _ => none

/-! ## Errors -/

def ErrorKind.storedName : ErrorKind → String
  | .value => "VALUE"
  | .divByZero => "DIV_BY_ZERO"
  | .spill => "SPILL"
  | .name => "NAME"
  | .reference => "REF"
  | .notAvailable => "NA"
  | .number => "NUM"

def ErrorKind.toJson (kind : ErrorKind) : Json :=
  .str kind.storedName

def ErrorKind.ofJson? (j : Json) : Option ErrorKind := do
  let name ← j.toCaseName?
  ErrorKind.all.find? fun kind => kind.storedName == name

def FormulaError.toJson (e : FormulaError) : Json :=
  .ofFields [("kind", some e.kind.toJson), ("message", e.message.map Json.str)]

/-- Reads an error; the message may be missing. -/
def FormulaError.ofJson? (j : Json) : Option FormulaError := do
  let fields ← j.record? ["kind", "message"]
  let kind ← fields.lookup "kind" >>= ErrorKind.ofJson?
  let message ← Json.optional? Json.toStr? (fields.lookup "message")
  return ⟨kind, message⟩

/-! ## Relations -/

def Relation.toJson (r : Relation) : Json :=
  .str r.name

def Relation.ofJson? (j : Json) : Option Relation := do
  let name ← j.toCaseName?
  Relation.all.find? fun r => r.name == name

/-! ## Values -/

/-- A grid whose cells have been written already. -/
def gridJson (rows columns : Nat) (cells : List Json) : Json :=
  .obj [("rows", .ofNat rows), ("columns", .ofNat columns), ("cells", .arr cells)]

/-- A value with the name of its kind. -/
def taggedJson (tag : String) (content : Json) : Json :=
  .obj [("type", .str tag), ("value", content)]

mutual

/-- A value as the name of its kind and its content. -/
def Value.toJson : Value → Json
  | .null => .obj [("type", .str "Null")]
  | .bool b => taggedJson "Bool" (.bool b)
  | .number n => taggedJson "Number" n.toJson
  | .text s => taggedJson "Text" (.str s)
  | .error e => taggedJson "Error" e.toJson
  | .array ⟨rows, columns, cells⟩ => taggedJson "Array" (gridJson rows columns (Value.toJsons cells))

/-- Each value of a list as the name of its kind and its content. -/
def Value.toJsons : List Value → List Json
  | [] => []
  | x :: rest => Value.toJson x :: Value.toJsons rest

end

def Grid.toJson (g : Grid Value) : Json :=
  gridJson g.rows g.columns (Value.toJsons g.cells)

/-- The value of a kind other than array with a given content; `grid` is the content read as a
grid. -/
def Value.ofContent? (tag : String) (content : Option Json) (grid : Option (Grid Value)) :
    Option Value :=
  match tag with
  | "Null" =>
    match content with
    | none | some .null => some .null
    | some _ => none
  | "Bool" => content >>= Json.toBool? |>.map .bool
  | "Number" => content >>= Number.ofJson? |>.map .number
  | "Text" => content >>= Json.toStr? |>.map .text
  | "Error" => content >>= FormulaError.ofJson? |>.map .error
  | "Array" => grid.map .array
  | _ => none

mutual

/-- Reads a value from its kind and content, given by name or in this order. -/
def Value.ofJson? : Json → Option Value
  | .obj fields => do
    let tag ← fields.lookup "type" >>= Json.toCaseName?
    Value.ofContent? tag (fields.lookup "value") (Value.gridField? fields)
  | .arr [tag, content] => do
    Value.ofContent? (← tag.toCaseName?) (some content) (Value.grid? content)
  | _ => none

def Value.gridField? : List (String × Json) → Option (Grid Value)
  | [] => none
  | (name, content) :: rest =>
    if name = "value" then Value.grid? content else Value.gridField? rest

/-- Reads a grid from its shape and cells, given by name or in this order. The shape is taken as
announced. -/
def Value.grid? : Json → Option (Grid Value)
  | .obj fields => do
    let rows ← fields.lookup "rows" >>= Json.toNat?
    let columns ← fields.lookup "columns" >>= Json.toNat?
    return ⟨rows, columns, ← Value.cellsField? fields⟩
  | .arr [rows, columns, cells] => do
    return ⟨← rows.toNat?, ← columns.toNat?, ← Value.cells? cells⟩
  | _ => none

def Value.cellsField? : List (String × Json) → Option (List Value)
  | [] => none
  | (name, content) :: rest =>
    if name = "cells" then Value.cells? content else Value.cellsField? rest

def Value.cells? : Json → Option (List Value)
  | .arr items => Value.values? items
  | _ => none

def Value.values? : List Json → Option (List Value)
  | [] => some []
  | item :: rest => do return (← Value.ofJson? item) :: (← Value.values? rest)

end

end Spreadsheet
