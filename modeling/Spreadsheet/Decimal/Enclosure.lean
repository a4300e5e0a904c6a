import Spreadsheet.Decimal.Basic

/-!
Enclosures of real numbers, for functions whose values have no finite decimal expansion.

An `Enclosure` with ends in units of `10 ^ -places` is narrowed by raising `places`. Once both of
its ends round to one decimal, so does the number inside: `Decimal.settle` raises `places` until
that happens, and its answer is then correctly rounded.
-/

namespace Spreadsheet

/-- An interval that contains a real number, in units of `10 ^ -places` for some `places`. -/
structure Enclosure where
  lower : Int
  upper : Int

def Enclosure.add (x y : Enclosure) : Enclosure :=
  ⟨x.lower + y.lower, x.upper + y.upper⟩

def Enclosure.scale (k : Int) (x : Enclosure) : Enclosure :=
  if 0 ≤ k then ⟨k * x.lower, k * x.upper⟩ else ⟨k * x.upper, k * x.lower⟩

def Decimal.enclose (places : Nat) (x : Decimal) : Enclosure :=
  let shift := x.exp + places
  let floor := x.coeff * 10 ^ shift.toNat / 10 ^ (-shift).toNat
  if 0 ≤ shift then ⟨floor, floor⟩ else ⟨floor, floor + 1⟩

def divUp (num den : Nat) : Nat :=
  (num + den - 1) / den

/-- The decimal to which both ends of `10 ^ exp` times an enclosure round. -/
def Enclosure.rounded? (x : Enclosure) (exp : Int) : Option Decimal :=
  let lower := (Decimal.ofScaled x.lower exp).round
  if lower = (Decimal.ofScaled x.upper exp).round then some lower else none

/-- The rounding of the number that `approximate places`, a decimal exponent and an enclosure, has
narrowed down far enough; each attempt doubles the number of places. -/
def Decimal.settle (approximate : Nat → Int × Enclosure) : Nat → Nat → Decimal
  | 0, places =>
    let (exp, x) := approximate places
    (ofScaled x.lower (exp - places)).round
  | attempts + 1, places =>
    let (exp, x) := approximate places
    (x.rounded? (exp - places)).getD (settle approximate attempts (2 * places))

end Spreadsheet
