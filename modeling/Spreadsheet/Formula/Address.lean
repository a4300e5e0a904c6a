import Spreadsheet.Decimal.Text
import Spreadsheet.Store.Position
import Spreadsheet.Text.Blank
import Spreadsheet.Text.Pieces
import Spreadsheet.Text.Quoted

/-!
Addresses in A1 notation: `A1`, `$B$12`, `A1:C3`, `Sheet2!A1:B2`, `'My Sheet'!A1`.
-/

namespace Spreadsheet

def sheetColumns : Nat := 16384

def sheetRows : Nat := 1048576

/-- Why a text denotes no cells. -/
inductive AddressError where
  | malformed (text : String)
  | columnOutOfRange
  | rowOutOfRange
  | unknownSheet (name : String)
deriving DecidableEq

def AddressError.message : AddressError → String
  | .malformed text => "invalid A1 address: " ++ text
  | .columnOutOfRange => "column out of range"
  | .rowOutOfRange => "row out of range"
  | .unknownSheet name => "unknown sheet: " ++ name

/-- The number of a column, counted from one: its letters are the digits from one to twenty-six. -/
def columnNumber (letters : List Char) : Nat :=
  letters.foldl (fun n c => 26 * n + (c.toUpper.toNat - 'A'.toNat + 1)) 0

/-- The text without a dollar sign at its beginning. -/
def dropAnchor : List Char → List Char
  | '$' :: rest => rest
  | chars => chars

/-- The letters and digits of an address, each after an optional dollar sign, and what follows
them. -/
def splitAddress (chars : List Char) : List Char × List Char × List Char :=
  let body := dropAnchor chars
  let after := dropAnchor (body.dropWhile Char.isAlpha)
  (body.takeWhile Char.isAlpha, after.takeWhile Char.isDigit, after.dropWhile Char.isDigit)

/-- Whether a text is letters followed by digits, each after an optional dollar sign. -/
def hasAddressShape (chars : List Char) : Bool :=
  let (letters, digits, rest) := splitAddress chars
  letters ≠ [] && digits ≠ [] && rest = []

/-- The position that a text denotes. Columns and rows too large to count are reported before the
rest of the text is looked at. -/
def Position.ofAddress? (chars : List Char) : Except AddressError Position :=
  let trimmed := trimBlanks chars
  let (letters, digits, rest) := splitAddress trimmed
  let column := columnNumber letters
  let row := natOfDigits digits
  let malformed := AddressError.malformed (.ofList trimmed)
  if letters = [] then .error malformed
  else if greatestCount < column then .error .columnOutOfRange
  else if greatestCount < row then .error .rowOutOfRange
  else if digits = [] ∨ rest ≠ [] then .error malformed
  else if sheetColumns < column then .error .columnOutOfRange
  else if row = 0 ∨ sheetRows < row then .error .rowOutOfRange
  else .ok ⟨row - 1, column - 1⟩

/-- A range with the name of its sheet, if one is given. -/
structure RangeAddress where
  sheet : Option String
  range : Range

/-- The sheet before the last exclamation mark, with its quotes removed, and the cells after it. -/
def splitSheet (chars : List Char) : Option (List Char) × List Char :=
  match splitLast? '!' chars with
  | some (sheet, cells) => (some ((unquote? '\'' sheet).getD sheet), cells)
  | none => (none, chars)

/-- Whether a token has the form of a reference; the cells may be out of range. -/
def looksLikeReference (token : String) : Bool :=
  let (sheet, cells) := splitSheet (trimBlanks token.toList)
  sheet ≠ some [] &&
    match splitAtChar ':' cells with
    | [cell] => hasAddressShape cell
    | [first, last] => hasAddressShape first && hasAddressShape last
    | _ => false

/-- The range that a text denotes: a cell, or two corners. -/
def RangeAddress.ofText? (text : String) : Except AddressError RangeAddress := do
  let (sheet, cells) := splitSheet (trimBlanks text.toList)
  if sheet = some [] then throw (.malformed text)
  let (first, last) := (splitFirst? ':' cells).getD (cells, cells)
  let p ← Position.ofAddress? first
  let q ← Position.ofAddress? last
  return ⟨sheet.map String.ofList, .between p q⟩

end Spreadsheet
