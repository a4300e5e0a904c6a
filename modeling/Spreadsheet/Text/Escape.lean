import Spreadsheet.Text.HiddenTable

/-!
Texts between quotes, with escapes for all that is not shown as it is.
-/

namespace Spreadsheet

/-- Whether a character is a control or other character that is not shown as it is. -/
def isHidden (c : Char) : Bool :=
  let n := c.toNat
  n < 0x20 || (0x7f ≤ n && hiddenRanges.any fun (first, last) => first ≤ n && n ≤ last)

def escapeChar (c : Char) : List Char :=
  match c with
  | '\x00' => ['\\', '0']
  | '\t' => ['\\', 't']
  | '\r' => ['\\', 'r']
  | '\n' => ['\\', 'n']
  | '"' => ['\\', '"']
  | '\\' => ['\\', '\\']
  | c => if isHidden c then "\\u\x7b".toList ++ Nat.toDigits 16 c.toNat ++ ['\x7d'] else [c]

def escapeText (text : String) : String :=
  .ofList ('"' :: (text.toList.flatMap escapeChar ++ ['"']))

end Spreadsheet
