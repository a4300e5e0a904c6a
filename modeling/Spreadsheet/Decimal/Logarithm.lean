import Spreadsheet.Decimal.Enclosure

/-!
The natural logarithm, correctly rounded.

A positive decimal is brought next to one by powers of two and ten, and the series
`log ((1 + t) / (1 - t)) = 2 * (t + t ^ 3 / 3 + t ^ 5 / 5 + ...)` is summed with every quotient
rounded down for the lower end of the enclosure and up for the upper one.
-/

namespace Spreadsheet

/-- The sum of `power / k`, `power * t ^ 2 / (k + 2)`, … over `terms` terms, for `t = num / den`;
`div` rounds each quotient and `tail` accounts for the terms that are left out. -/
def artanhSum (div : Nat → Nat → Nat) (tail : Nat → Nat) (num den : Nat) :
    Nat → Nat → Nat → Nat
  | 0, power, _ => tail power
  | terms + 1, power, k =>
    div power k + artanhSum div tail num den terms (div (power * num * num) (den * den)) (k + 2)

/-- Encloses `log ((den + num) / (den - num))`, for `3 * num ≤ den`. -/
def Enclosure.logRatio (places num den : Nat) : Enclosure :=
  let unit := 10 ^ places
  -- The terms shrink ninefold, so the ones left out add up to less than the next power.
  let terms := places + places / 10 + 2
  ⟨2 * artanhSum (· / ·) (fun _ => 0) num den terms (unit * num / den) 1,
    2 * artanhSum divUp id num den terms (divUp (unit * num) den) 1⟩

def Enclosure.logTwo (places : Nat) : Enclosure :=
  .logRatio places 1 3

/-- Encloses the logarithm of ten, which is `2 ^ 3 * (5 / 4)`. -/
def Enclosure.logTen (places : Nat) : Enclosure :=
  ((logTwo places).scale 3).add (logRatio places 1 9)

def Decimal.encloseLog (x : Decimal) (places : Nat) : Enclosure :=
  let coeff := x.coeff.natAbs
  let digits := digitCount coeff
  let one := 10 ^ digits
  -- `coeff * 2 ^ twos / one` lies between two thirds and four thirds.
  let twos : Nat :=
    if 2 * one ≤ 3 * coeff then 0
    else if one ≤ 3 * coeff then 1
    else if one ≤ 6 * coeff then 2
    else 3
  let near := coeff * 2 ^ twos
  let distance := if one ≤ near then near - one else one - near
  let log := (Enclosure.logRatio places distance (near + one)).scale (if one ≤ near then 1 else -1)
  (log.add ((Enclosure.logTwo places).scale (-twos))).add
    ((Enclosure.logTen places).scale (x.exp + digits))

/-- The natural logarithm of a positive decimal, rounded to the working precision. Next to one it
begins with as many zeros as the decimal has digits, which the first attempt allows for. -/
def Decimal.log (x : Decimal) : Decimal :=
  if x = .ofInt 1 then .ofInt 0
  else settle (fun places => (0, x.encloseLog places)) 8 (90 + digitCount x.coeff.natAbs)

end Spreadsheet
