/-!
The number of single-character changes between two texts, computed row by row.
-/

namespace Spreadsheet

/-- The distances of the next row from the one above it: `diagonal` and `left` are the neighbours
of the first of them, `above` the distances over the rest of the row. -/
def nextDistances (c : Char) (diagonal left : Nat) : List Char → List Nat → List Nat
  | d :: target, up :: above =>
    let substituted := diagonal + if c = d then 0 else 1
    let here := min (min substituted (left + 1)) (up + 1)
    here :: nextDistances c up here target above
  | _, _ => []

/-- The distances of a prefix, longer by `c` than that of `row`, to all prefixes of `target`. -/
def distanceRow (target : List Char) (row : List Nat) (c : Char) : List Nat :=
  match row with
  | first :: above => (first + 1) :: nextDistances c first (first + 1) target above
  | [] => []

/-- The least number of insertions, deletions and substitutions that turn one text into the
other. -/
def editDistance (a b : List Char) : Nat :=
  (a.foldl (distanceRow b) (List.range (b.length + 1))).getLastD 0

end Spreadsheet
