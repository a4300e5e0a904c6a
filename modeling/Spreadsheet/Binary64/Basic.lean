import Spreadsheet.Power

/-!
Double-precision arithmetic on exact integers.

`Binary64.ofRatio` is the only rounding in this file: every operation on finite values forms its
exact result as a ratio of natural numbers and rounds it once, to the nearest representable value
with ties to the even significand. Infinities and NaN follow the usual exceptional cases.
-/

namespace Spreadsheet

/-- The quotient of two natural numbers rounded to the nearest one, a half to the even neighbour. -/
def roundHalfEven (num den : Nat) : Nat :=
  let quotient := num / den
  let twice := 2 * (num % den)
  if den < twice ∨ twice = den ∧ quotient % 2 = 1 then quotient + 1 else quotient

/-- The greatest `e` with `2 ^ e ≤ num / den`, for positive `num` and `den`. -/
def floorLog2 (num den : Nat) : Int :=
  let e := (num.log2 : Int) - (den.log2 : Int)
  if num * 2 ^ (-e).toNat < den * 2 ^ e.toNat then e - 1 else e

/-- A double-precision value. A finite value is `± significand * 2 ^ exponent`, in the one form with
`significand < 2 ^ 53` and `-1074 ≤ exponent ≤ 971` in which the exponent is as small as it can be:
`2 ^ 52 ≤ significand`, or `exponent = -1074`. -/
inductive Binary64 where
  | nan
  | infinity (negative : Bool)
  /-- A finite value; the two zeros differ in their sign. -/
  | finite (negative : Bool) (significand : Nat) (exponent : Int)
deriving DecidableEq, Repr

def Binary64.zero (negative : Bool) : Binary64 :=
  .finite negative 0 (-1074)

/-- The double nearest to `± num / den`, for a positive `den`; beyond the largest one it is an
infinity. -/
def Binary64.ofRatio (negative : Bool) (num den : Nat) : Binary64 :=
  if num = 0 then .zero negative
  else
    let e := max (floorLog2 num den - 52) (-1074)
    let significand := roundHalfEven (num * 2 ^ (-e).toNat) (den * 2 ^ e.toNat)
    -- Rounding up may reach the next power of two, where the exponent moves by one.
    let (significand, e) :=
      if significand = 2 ^ 53 then (2 ^ 52, e + 1) else (significand, e)
    if 971 < e then .infinity negative else .finite negative significand e

def Binary64.ofInt (n : Int) : Binary64 :=
  .ofRatio (n < 0) n.natAbs 1

/-- The double nearest to `± coeff * 10 ^ exp`. -/
def Binary64.ofScientific (negative : Bool) (coeff : Nat) (exp : Int) : Binary64 :=
  .ofRatio negative (coeff * 10 ^ exp.toNat) (10 ^ (-exp).toNat)

/-- The double with all but the sign of `x`, and the opposite sign. -/
def Binary64.neg : Binary64 → Binary64
  | .nan => .nan
  | .infinity negative => .infinity !negative
  | .finite negative m e => .finite (!negative) m e

def Binary64.isFinite : Binary64 → Bool
  | .finite .. => true
  | _ => false

/-- The value of `± m * 2 ^ e` in units of `2 ^ base`, for `base ≤ e`. -/
def Binary64.inUnits (negative : Bool) (m : Nat) (e base : Int) : Int :=
  let magnitude := (m * 2 ^ (e - base).toNat : Nat)
  if negative then -magnitude else magnitude

/-- The rounded sum. Opposite infinities have none. -/
def Binary64.add : Binary64 → Binary64 → Binary64
  | .nan, _ | _, .nan => .nan
  | .infinity s, .infinity t => if s = t then .infinity s else .nan
  | .infinity s, .finite .. => .infinity s
  | .finite .., .infinity t => .infinity t
  | .finite s m e, .finite t n f =>
    let base := min e f
    let total := inUnits s m e base + inUnits t n f base
    -- An exact zero is negative only as the sum of two negative zeros.
    if total = 0 then .zero (s && t && m == 0 && n == 0)
    else .ofRatio (total < 0) (total.natAbs * 2 ^ base.toNat) (2 ^ (-base).toNat)

def Binary64.sub (x y : Binary64) : Binary64 :=
  x.add y.neg

/-- The rounded product. Zero times an infinity has none. -/
def Binary64.mul : Binary64 → Binary64 → Binary64
  | .nan, _ | _, .nan => .nan
  | .infinity s, .infinity t => .infinity (s != t)
  | .infinity s, .finite t n _ => if n = 0 then .nan else .infinity (s != t)
  | .finite s m _, .infinity t => if m = 0 then .nan else .infinity (s != t)
  | .finite s m e, .finite t n f =>
    .ofRatio (s != t) (m * n * 2 ^ (e + f).toNat) (2 ^ (-(e + f)).toNat)

/-- The rounded quotient. A nonzero value over zero is an infinity. -/
def Binary64.div : Binary64 → Binary64 → Binary64
  | .nan, _ | _, .nan => .nan
  | .infinity _, .infinity _ => .nan
  | .infinity s, .finite t _ _ => .infinity (s != t)
  | .finite s _ _, .infinity t => .zero (s != t)
  | .finite s m e, .finite t n f =>
    if n = 0 then if m = 0 then .nan else .infinity (s != t)
    else .ofRatio (s != t) (m * 2 ^ (e - f).toNat) (n * 2 ^ (f - e).toNat)

/-- The order of two values; NaN has no place in it, and the two zeros are equal. -/
def Binary64.compare? : Binary64 → Binary64 → Option Ordering
  | .nan, _ | _, .nan => none
  | .infinity s, .infinity t => some (if s = t then .eq else if s then .lt else .gt)
  | .infinity s, .finite .. => some (if s then .lt else .gt)
  | .finite .., .infinity t => some (if t then .gt else .lt)
  | .finite s m e, .finite t n f =>
    let base := min e f
    some (compare (inUnits s m e base) (inUnits t n f base))

/-- The power with a natural exponent by repeated squaring, every product rounded. -/
def Binary64.powNat (x : Binary64) (n : Nat) : Binary64 :=
  go (n.log2 + 1) (.ofInt 1) x n
where
  /-- Multiplies `acc` by `x ^ n`, consuming one binary digit of `n` a step. -/
  go : Nat → Binary64 → Binary64 → Nat → Binary64
    | 0, acc, _, _ => acc
    | fuel + 1, acc, x, n =>
      let acc := if n % 2 = 1 then acc.mul x else acc
      if n / 2 = 0 then acc else go fuel acc (x.mul x) (n / 2)

def Binary64.isOddInteger : Binary64 → Bool
  | .finite _ m e =>
    if 0 < e then false
    else m % 2 ^ (-e).toNat = 0 && m / 2 ^ (-e).toNat % 2 = 1
  | _ => false

/-- How the magnitude of a value compares with one. -/
def Binary64.compareOne : Binary64 → Ordering
  | .finite _ m e => compare (m * 2 ^ e.toNat) (2 ^ (-e).toNat)
  | _ => .gt

/-- The power of two values of which at least one is infinite or NaN. A power of two finite values
is not among the exceptional cases listed here, and is left undefined. -/
def Binary64.powExceptional : Binary64 → Binary64 → Binary64
  | _, .finite _ 0 _ => .ofInt 1
  | .nan, _ => .nan
  | x, .nan => if x = .ofInt 1 then x else .nan
  | x, .infinity negative =>
    match x.compareOne with
    | .eq => .ofInt 1
    | .lt => if negative then .infinity false else .zero false
    | .gt => if negative then .zero false else .infinity false
  | .infinity s, y@(.finite t _ _) =>
    let negative := s && y.isOddInteger
    if t then .zero negative else .infinity negative
  | .finite .., .finite .. => .nan

def Binary64.toBits : Binary64 → Nat
  | .nan => 0x7ff8 * 2 ^ 48
  | .infinity negative => negative.toNat * 2 ^ 63 + 0x7ff * 2 ^ 52
  | .finite negative m e =>
    negative.toNat * 2 ^ 63 +
      if m < 2 ^ 52 then m else (e + 1075).toNat * 2 ^ 52 + (m - 2 ^ 52)

def Binary64.ofBits (bits : Nat) : Binary64 :=
  let negative := bits / 2 ^ 63 % 2 = 1
  let biased := bits / 2 ^ 52 % 2 ^ 11
  let fraction := bits % 2 ^ 52
  if biased = 0x7ff then if fraction = 0 then .infinity negative else .nan
  else if biased = 0 then .finite negative fraction (-1074)
  else .finite negative (2 ^ 52 + fraction) (Int.ofNat biased - 1075)

end Spreadsheet
