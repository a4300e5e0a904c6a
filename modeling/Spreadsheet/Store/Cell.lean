import Spreadsheet.Value.Basic

/-!
Cells as they are stored: raw content and a type tag, which decides how the content is read.
-/

namespace Spreadsheet

/-- The type tag of a stored cell. -/
inductive CellTag where
  | text
  | boolean
  | number
deriving DecidableEq, Repr

def CellTag.code : CellTag → Nat
  | .text => 1
  | .boolean => 2
  | .number => 3

def CellTag.ofCode? (code : Nat) : Option CellTag :=
  [.text, .boolean, .number].find? fun tag => tag.code = code

def CellTag.unknownCode (code : Nat) : String :=
  "unknown cell value type " ++ toString code

/-- Stored content. -/
inductive RawValue where
  | bool (b : Bool)
  | text (s : String)
  | number (n : Number)

/-- Whether two contents are equal: numbers in their order. -/
def RawValue.equal : RawValue → RawValue → Bool
  | .bool a, .bool b => a == b
  | .text a, .text b => a == b
  | .number a, .number b => a.equal b
  | _, _ => false

instance : BEq RawValue := ⟨RawValue.equal⟩

/-- A stored cell; one without content is blank. -/
structure Cell where
  content : Option RawValue := none
  tag : Option CellTag := none
deriving BEq

def Cell.blank : Cell := {}

def Cell.ofNumber (n : Number) : Cell :=
  ⟨some (.number n), some .number⟩

def Cell.ofText (s : String) : Cell :=
  ⟨some (.text s), some .text⟩

def Cell.ofBool (b : Bool) : Cell :=
  ⟨some (.bool b), some .boolean⟩

def Cell.isBlank (c : Cell) : Bool :=
  c.content.isNone

/-- The value of a stored text; an error is stored as its token. -/
def Value.ofStoredText (s : String) : Value :=
  match ErrorKind.ofToken? s with
  | some kind => .ofErrorKind kind
  | none => .text s

def RawValue.read : Option CellTag → RawValue → Value
  | some .text, .text s => .ofStoredText s
  | some .text, .number n => .text n.toText
  | some .text, .bool b => .text (boolText b)
  | some .boolean, .bool b => .bool b
  | some .boolean, .number n => .bool !n.isZero
  | some .boolean, .text s => .bool (equalIgnoringAsciiCase s "TRUE" || s == "1")
  | some .number, .text s =>
    match Number.ofText? s with
    | .ok n => .number n
    | .error _ => .ofStoredText s
  | _, .number n => .number n
  | _, .bool b => .bool b
  | none, .text s => .ofStoredText s

def Cell.value (c : Cell) : Value :=
  match c.content with
  | none => .null
  | some raw => raw.read c.tag

mutual

/-- The cell that keeps a value: an error is kept as its token, an array as its first cell. -/
def Cell.ofValue : Value → Cell
  | .null => .blank
  | .bool b => .ofBool b
  | .number n => .ofNumber n
  | .text s => .ofText s
  | .error e => .ofText e.kind.token
  | .array ⟨rows, columns, cells⟩ =>
    if rows = 0 ∨ columns = 0 then .blank else Cell.ofFirst cells

/-- The cell that keeps the first of several values. -/
def Cell.ofFirst : List Value → Cell
  | [] => .blank
  | v :: _ => Cell.ofValue v

end

end Spreadsheet
