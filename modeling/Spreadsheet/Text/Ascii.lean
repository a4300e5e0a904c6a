/-!
Comparison of text up to the case of ASCII letters.
-/

namespace Spreadsheet

/-- The characters of a text with its ASCII capitals made small. -/
def asciiFold (text : String) : List Char :=
  text.toList.map Char.toLower

/-- Whether two texts differ at most in the case of ASCII letters. -/
def equalIgnoringAsciiCase (a b : String) : Bool :=
  asciiFold a == asciiFold b

end Spreadsheet
