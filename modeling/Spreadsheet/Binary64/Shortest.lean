import Spreadsheet.Binary64.Basic
import Spreadsheet.Decimal.Basic

/-!
The shortest decimal that reads back as a given double.

The reals that round to a double form an interval around it, whose ends belong to it when the
significand is even. The coarsest decimal grid with a point in that interval gives the fewest
digits; of the two points next to the value the nearer one is taken, and a tie goes away from zero.
-/

namespace Spreadsheet

/-- The reals that round to one double, in quarter units of its last place: an interval around
`value`, whose ends belong to it when `closed` is true. -/
structure RoundingInterval where
  lower : Nat
  value : Nat
  upper : Nat
  /-- The power of two that one quarter unit stands for. -/
  exponent : Int
  /-- Whether the ends round to the double. -/
  closed : Bool

/-- The reals that round to the positive double `m * 2 ^ e`. Below a power of two the neighbour is
nearer, so the lower end is too. -/
def RoundingInterval.ofDouble (m : Nat) (e : Int) : RoundingInterval where
  lower := if m = 2 ^ 52 ∧ -1074 < e then 4 * m - 1 else 4 * m - 2
  value := 4 * m
  upper := 4 * m + 2
  exponent := e - 2
  closed := m % 2 = 0

/-- Whether `x` lies below `y`, or at it in a closed interval. -/
def RoundingInterval.reaches (i : RoundingInterval) (x y : Nat) : Bool :=
  if i.closed then x ≤ y else x < y

/-- The multiple of `10 ^ place` in the interval that is nearest to its value, divided by that
power. -/
def RoundingInterval.gridPoint? (i : RoundingInterval) (place : Int) : Option Nat :=
  -- Both scales bring decimal points and quarter units to one unit.
  let decimalScale := 10 ^ place.toNat * 2 ^ (-i.exponent).toNat
  let binaryScale := 2 ^ i.exponent.toNat * 10 ^ (-place).toNat
  let value := i.value * binaryScale
  let below := value / decimalScale
  let above := below + 1
  let hasBelow := i.reaches (i.lower * binaryScale) (below * decimalScale)
  let hasAbove := i.reaches (above * decimalScale) (i.upper * binaryScale)
  match hasBelow, hasAbove with
  | true, true =>
    if value - below * decimalScale < above * decimalScale - value then some below else some above
  | true, false => some below
  | false, true => some above
  | false, false => none

/-- The point of the coarsest grid that meets the interval, searched from `10 ^ place` downward. -/
def RoundingInterval.shortest (i : RoundingInterval) : Nat → Int → Decimal
  | 0, place => .ofScaled ((i.gridPoint? place).getD 0) place
  | fuel + 1, place =>
    match i.gridPoint? place with
    | some coeff => .ofScaled coeff place
    | none => i.shortest fuel (place - 1)

/-- The shortest decimal that reads back as the double `± m * 2 ^ e`. -/
def Decimal.ofDouble (negative : Bool) (m : Nat) (e : Int) : Decimal :=
  if m = 0 then .ofInt 0
  else
    -- A power of ten above the value; seventeen digits below its first one always suffice.
    let place := ((m.log2 : Int) + e + 1) * 30103 / 100000 + 1
    let magnitude := (RoundingInterval.ofDouble m e).shortest 20 place
    if negative then magnitude.neg else magnitude

end Spreadsheet
