import Spreadsheet.FormulaError
import Spreadsheet.Grid
import Spreadsheet.Text.Quoted

/-!
Values of cells and formulas: null, booleans, numbers, texts, errors and arrays of values.
-/

namespace Spreadsheet

/-- A value of a cell or a formula. -/
inductive Value where
  /-- The value of an empty cell. -/
  | null
  | bool (b : Bool)
  | number (n : Number)
  | text (s : String)
  | error (e : FormulaError)
  | array (cells : Grid Value)

instance : Inhabited Value := ⟨.null⟩

def Value.ofInt (n : Int) : Value :=
  .number (.ofInt n)

/-- An error value without a message. -/
def Value.ofErrorKind (kind : ErrorKind) : Value :=
  .error ⟨kind, none⟩

/-! ## Equality -/

mutual

/-- Whether two values are equal: numbers in their order, errors by their kinds, arrays by shape and
cells. -/
def Value.equal : Value → Value → Bool
  | .null, .null => true
  | .bool a, .bool b => a == b
  | .number a, .number b => a.equal b
  | .text a, .text b => a == b
  | .error a, .error b => a == b
  | .array ⟨rows, columns, as⟩, .array ⟨rows', columns', bs⟩ =>
    rows == rows' && columns == columns' && Value.equalAll as bs
  | _, _ => false

def Value.equalAll : List Value → List Value → Bool
  | [], [] => true
  | a :: as, b :: bs => Value.equal a b && Value.equalAll as bs
  | _, _ => false

end

instance : BEq Value := ⟨Value.equal⟩

/-! ## Kinds -/

def Value.isNull : Value → Bool
  | .null => true
  | _ => false

def Value.isError : Value → Bool
  | .error _ => true
  | _ => false

def Value.isArray : Value → Bool
  | .array _ => true
  | _ => false

def Value.asNumber? : Value → Option Number
  | .number n => some n
  | _ => none

def Value.asText? : Value → Option String
  | .text s => some s
  | _ => none

def Value.asBool? : Value → Option Bool
  | .bool b => some b
  | _ => none

def Value.asArray? : Value → Option (Grid Value)
  | .array g => some g
  | _ => none

def Value.asError? : Value → Option FormulaError
  | .error e => some e
  | _ => none

def Value.kindName : Value → String
  | .null => "Null"
  | .bool _ => "Boolean"
  | .number _ => "Number"
  | .text _ => "Text"
  | .error _ => "Error"
  | .array _ => "Array"

/-! ## Text and number of a value -/

def boolText (b : Bool) : String :=
  if b then "TRUE" else "FALSE"

/-- The text of a scalar as a part of a longer text; an array has none. -/
def Value.scalarText? : Value → Option String
  | .null => some ""
  | .bool b => some (boolText b)
  | .number n => some n.toText
  | .text s => some s
  | .error e => some e.kind.token
  | .array _ => none

/-- The text of an array whose cells have the given texts: commas between the cells of a row,
semicolons between rows. -/
def arrayText (cells : Grid String) : String :=
  "\x7b" ++ ";".intercalate (cells.toRows.map fun row => ",".intercalate row) ++ "\x7d"

mutual

/-- The text that a cell shows. -/
def Value.toText : Value → String
  | .null => ""
  | .bool b => boolText b
  | .number n => n.toText
  | .text s => s
  | .error e => e.kind.token
  | .array ⟨rows, columns, cells⟩ => arrayText ⟨rows, columns, Value.toTexts cells⟩

def Value.toTexts : List Value → List String
  | [] => []
  | x :: rest => Value.toText x :: Value.toTexts rest

end

instance : ToString Value := ⟨Value.toText⟩

def Number.ofBool (b : Bool) : Number :=
  .ofInt (if b then 1 else 0)

/-- The number that a function argument stands for; unlike an operator, a function reads numerals
in texts. -/
def Value.toNumber? : Value → Except FormulaError Number
  | .null => .ok (.ofInt 0)
  | .bool b => .ok (.ofBool b)
  | .number n => .ok n
  | .text s =>
    match Number.ofText? s with
    | .ok n => .ok n
    | .error _ => .error (.mismatch "Number" "Text")
  | .error e => .error e
  | .array _ => .error (.mismatch "Number" "Array")

/-! ## Literals -/

/-- The value that a literal token denotes: an error, a truth value, a number, the content of a
quoted text, or else the token itself as a text. -/
def Value.ofLiteral (token : String) : Value :=
  match ErrorKind.ofToken? token with
  | some kind => .ofErrorKind kind
  | none =>
    if equalIgnoringAsciiCase token "TRUE" then .bool true
    else if equalIgnoringAsciiCase token "FALSE" then .bool false
    else
      match Number.ofText? token with
      | .ok n => .number n
      | .error _ =>
        match unquote? '"' token.toList with
        | some content => .text (.ofList content)
        | none => .text token

end Spreadsheet
