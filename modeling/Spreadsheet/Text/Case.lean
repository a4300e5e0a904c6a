import Spreadsheet.Text.CaseTable

/-!
Capital and small forms of texts, by the full case mappings: a character may become several, and a
sigma at the end of a word has a small form of its own.
-/

namespace Spreadsheet

/-- The code point that a range of mappings gives a character. -/
def CaseRange.map? (r : CaseRange) (code : Nat) : Option Nat :=
  if r.first ≤ code ∧ code ≤ r.last ∧ (code - r.first) % r.stride = 0 then
    some (Int.ofNat code + r.delta).toNat
  else none

/-- The form of a character under full mappings, or under ranges of simple ones. -/
def mapCase (sequences : List (Nat × List Nat)) (ranges : List CaseRange) (c : Char) :
    List Char :=
  match sequences.lookup c.toNat with
  | some codes => codes.map Char.ofNat
  | none => [Char.ofNat ((ranges.findSome? (·.map? c.toNat)).getD c.toNat)]

def upperText (text : String) : String :=
  .ofList (text.toList.flatMap (mapCase upperSequences upperRanges))

def inRanges (ranges : List (Nat × Nat)) (c : Char) : Bool :=
  ranges.any fun (first, last) => first ≤ c.toNat && c.toNat ≤ last

/-- Whether the first character that is not ignored for case is one with case. -/
def startsCased (chars : List Char) : Bool :=
  match chars.dropWhile (inRanges caseIgnorableRanges) with
  | c :: _ => inRanges casedRanges c
  | [] => false

/-- The small forms of characters that follow `before`, which is given from its end. -/
def lowerChars (before : List Char) : List Char → List Char
  | [] => []
  | c :: rest =>
    let small :=
      if c = 'Σ' then if startsCased before && !startsCased rest then ['ς'] else ['σ']
      else mapCase lowerSequences lowerRanges c
    small ++ lowerChars (c :: before) rest

/-- The small form of a text. -/
def lowerText (text : String) : String :=
  .ofList (lowerChars [] text.toList)

end Spreadsheet
