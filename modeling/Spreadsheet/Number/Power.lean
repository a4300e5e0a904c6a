import Spreadsheet.Number.Basic
import Spreadsheet.Decimal.Exponential

/-!
Powers of numbers. An integer exponent of moderate size is computed by multiplication, any other
one as the exponential of a multiple of the logarithm; the size of that multiple is checked first,
in double precision.
-/

namespace Spreadsheet

/-- The power with a natural exponent by repeated squaring, every product rounded. -/
def Decimal.powNat (x : Decimal) (n : Nat) : Decimal :=
  go (n.log2 + 1) (.ofInt 1) x n
where
  /-- Multiplies `acc` by `x ^ n`, consuming one binary digit of `n` a step. -/
  go : Nat → Decimal → Decimal → Nat → Decimal
    | 0, acc, _, _ => acc
    | fuel + 1, acc, x, n =>
      if n = 0 then acc
      else go fuel (if n % 2 = 1 then acc.mul x else acc) (x.mul x) (n / 2)

/-- The power with an integer exponent; a negative one inverts the finished product. -/
def Decimal.powInt (x : Decimal) (n : Int) : Decimal :=
  let power := x.powNat n.natAbs
  if n < 0 then (ofInt 1).div power else power

/-- The greatest integer exponent, in magnitude, that is computed by multiplication. -/
def Decimal.greatestFactorCount : Nat := 4096

/-- Whether an integer exponent of 64 bits is small enough for multiplication. The magnitude of the
least one is no integer of 64 bits: it wraps around to the exponent itself, which is small. -/
def Decimal.isFactorCount (n : Int) : Bool :=
  n.natAbs ≤ greatestFactorCount || n = -2 ^ 63

/-- The bound on the logarithm of a power, in magnitude. -/
def Decimal.greatestLog : Binary64 := .ofInt (10 ^ 15)

/-- The power of a nonzero decimal with a nonzero exponent. -/
def Decimal.pow? (x y : Decimal) : Except NumberError Decimal :=
  let magnitude : Decimal := if x.coeff < 0 then x.neg else x
  let log := magnitude.log.mul y
  let estimate := (Number.decimal log).toBinary64
  if estimate.compare? greatestLog = some .gt then
    .error (.domain "power result out of range")
  else if estimate.compare? greatestLog.neg = some .lt then
    .ok (.ofInt 0)
  else
    match y.toInt64?.filter isFactorCount with
    | some n => .ok (x.powInt n)
    | none =>
      if x.coeff < 0 then .error (.domain "negative base with non-integer exponent")
      else .ok log.exponential

def Number.pow? : Number → Number → Except NumberError Number
  | .decimal x, .decimal y =>
    if y.coeff = 0 then .ok (.ofInt 1)
    else if x.coeff = 0 then if y.coeff < 0 then .error .divisionByZero else .ok (.ofInt 0)
    else (x.pow? y).map .decimal
  | x, y => .ok (viaBinary64 .powExceptional x y)

end Spreadsheet
