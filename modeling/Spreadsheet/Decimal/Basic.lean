import Spreadsheet.Power

/-!
Decimal floating point with a bounded number of significant digits.

A `Decimal` is `coeff * 10 ^ exp` in its one form without trailing zeros, so equality of values is
equality of structures. Every operation forms its exact result and rounds it once, a half away from
zero; `Decimal.precision` is the number of digits that arithmetic keeps.
-/

namespace Spreadsheet

/-- The quotient of two natural numbers rounded to the nearest one, a half upward. -/
def roundHalfUp (num den : Nat) : Nat :=
  (2 * num + den) / (2 * den)

/-- The number of decimal digits of a natural number; zero has one. -/
def digitCount (n : Nat) : Nat :=
  go n.log2 n
where
  /-- Counts the digits of `n`, at most `fuel + 1` of them. -/
  go : Nat → Nat → Nat
    | 0, _ => 1
    | fuel + 1, n => if n < 10 then 1 else go fuel (n / 10) + 1

/-- A decimal number `coeff * 10 ^ exp`. -/
@[ext] structure Decimal where
  /-- The significant digits, with the sign. -/
  coeff : Int
  /-- The power of ten that scales them. -/
  exp : Int
  /-- The coefficient has no trailing zero, and zero is written in one way. -/
  normal : coeff % 10 ≠ 0 ∨ coeff = 0 ∧ exp = 0
deriving DecidableEq

/-- Moves trailing zeros of a coefficient into the exponent, at most `fuel` of them. -/
def Decimal.stripZeros : Nat → Int → Int → Int × Int
  | 0, coeff, exp => (coeff, exp)
  | fuel + 1, coeff, exp =>
    if coeff % 10 = 0 then stripZeros fuel (coeff / 10) (exp + 1) else (coeff, exp)

/-- A coefficient below `10 ^ fuel` loses all its trailing zeros. -/
theorem Decimal.stripZeros_fst_mod_ten (fuel : Nat) (coeff exp : Int)
    (nonzero : coeff ≠ 0) (bound : coeff.natAbs < 10 ^ fuel) :
    (stripZeros fuel coeff exp).1 % 10 ≠ 0 := by
  induction fuel generalizing coeff exp with
  | zero => simp at bound; omega
  | succ fuel ih =>
    simp only [stripZeros]
    split
    · exact ih _ _ (by omega) (by rw [Nat.pow_succ] at bound; omega)
    · assumption

/-- The decimal `coeff * 10 ^ exp`, in normal form. -/
def Decimal.ofScaled (coeff exp : Int) : Decimal :=
  if h : coeff = 0 then ⟨0, 0, .inr ⟨rfl, rfl⟩⟩
  else
    let stripped := stripZeros (coeff.natAbs.log2 + 1) coeff exp
    ⟨stripped.1, stripped.2, .inl (stripZeros_fst_mod_ten _ _ _ h (by
      have below : coeff.natAbs < 2 ^ (coeff.natAbs.log2 + 1) := Nat.lt_log2_self
      exact Nat.lt_of_lt_of_le below (Nat.pow_le_pow_left (by decide) _)))⟩

def Decimal.ofInt (n : Int) : Decimal :=
  .ofScaled n 0

instance : Inhabited Decimal := ⟨.ofInt 0⟩

/-- The number of significant digits that arithmetic keeps. -/
def Decimal.precision : Nat := 50

/-- The nearest decimal with at most `digits` significant digits, a half away from zero. -/
def Decimal.roundTo (digits : Nat) (x : Decimal) : Decimal :=
  let surplus := digitCount x.coeff.natAbs - digits
  if surplus = 0 then x
  else .ofScaled (x.coeff.sign * roundHalfUp x.coeff.natAbs (10 ^ surplus)) (x.exp + surplus)

def Decimal.round (x : Decimal) : Decimal :=
  x.roundTo precision

def Decimal.neg (x : Decimal) : Decimal :=
  ⟨-x.coeff, x.exp, by have := x.normal; omega⟩

/-- The coefficient of a decimal in units of `10 ^ base`, for `base ≤ x.exp`. -/
def Decimal.inUnits (x : Decimal) (base : Int) : Int :=
  x.coeff * 10 ^ (x.exp - base).toNat

def Decimal.exactAdd (x y : Decimal) : Decimal :=
  let base := min x.exp y.exp
  .ofScaled (x.inUnits base + y.inUnits base) base

/-- The rounded sum. Zero adds nothing, not even a rounding. A difference of two magnitudes with
unequal exponents keeps one guard digit beyond the working precision. -/
def Decimal.add (x y : Decimal) : Decimal :=
  if x.coeff = 0 then y
  else if y.coeff = 0 then x
  else if x.exp = y.exp ∨ x.coeff.sign = y.coeff.sign then (x.exactAdd y).round
  else (x.exactAdd y).roundTo (precision + 1)

def Decimal.sub (x y : Decimal) : Decimal :=
  x.add y.neg

def Decimal.mul (x y : Decimal) : Decimal :=
  (ofScaled (x.coeff * y.coeff) (x.exp + y.exp)).round

/-- The number of decimal places by which the quotient of two magnitudes is extended: none when it
is exact, and otherwise enough for the working precision. -/
def Decimal.quotientShift (n m : Nat) : Nat :=
  if n % m = 0 then 0
  else if n < m then digitCount m + precision - digitCount n
  else precision - digitCount (n / m)

/-- The rounded quotient, for a nonzero `y`. -/
def Decimal.div (x y : Decimal) : Decimal :=
  let n := x.coeff.natAbs
  let m := y.coeff.natAbs
  let shift := quotientShift n m
  let sign := x.coeff.sign * y.coeff.sign
  .ofScaled (sign * roundHalfUp (n * 10 ^ shift) m) (x.exp - y.exp - shift)

def Decimal.compare (x y : Decimal) : Ordering :=
  let base := min x.exp y.exp
  Ord.compare (x.inUnits base) (y.inUnits base)

def Decimal.isInteger (x : Decimal) : Bool :=
  0 ≤ x.exp

end Spreadsheet
