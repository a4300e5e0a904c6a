import Spreadsheet.Text.Pieces
import Spreadsheet.Value.Basic

/-!
Constants in formulas: numbers, quoted texts, truth values, errors, and arrays such as
`{1,2;3,4}`.
-/

namespace Spreadsheet

/-- The text between the braces of an array constant. -/
def arrayContent? (token : String) : Option (List Char) :=
  enclosed? '\x7b' '\x7d' token.toList

def isLiteral (token : String) : Bool :=
  equalIgnoringAsciiCase token "TRUE" || equalIgnoringAsciiCase token "FALSE"
    || (ErrorKind.ofToken? token).isSome || (Number.ofText? token).isOk
    || (enclosed? '"' '"' token.toList).isSome || (arrayContent? token).isSome

/-- The literals of an array constant: semicolons stand between rows, commas between cells, and
blanks around a cell do not count. -/
def literalRows (content : List Char) : List (List Value) :=
  (splitAtChar ';' content).map fun row =>
    (splitAtChar ',' row).map fun cell => .ofLiteral (.ofList (trimBlanks cell))

/-- The array of rows, which have to be equally long. -/
def Value.ofLiteralRows (rows : List (List Value)) : Value :=
  if rows.all fun row => row.length == (rows.headD []).length then .array (.ofRows .null rows)
  else .error ⟨.value, some "Ragged array constant"⟩

/-- The value of an array constant with a given text between its braces. -/
def Value.ofArrayContent (content : List Char) : Value :=
  if trimBlanks content = [] then .error ⟨.value, some "Empty array constant"⟩
  else .ofLiteralRows (literalRows content)

def Value.ofConstant (token : String) : Value :=
  match arrayContent? token with
  | some content => .ofArrayContent content
  | none => .ofLiteral token

end Spreadsheet
