import Spreadsheet.Decimal.Logarithm

/-!
The exponential function, correctly rounded.

An argument is split into a multiple of the logarithm of ten and a rest between two and five, whose
Taylor series is summed with every quotient rounded down for the lower end of the enclosure and up
for the upper one.
-/

namespace Spreadsheet

/-- The sum of `term`, `term * r / n`, `term * r ^ 2 / (n * (n + 1))`, … over `terms` terms, for
`r = arg / unit`; `div` rounds each quotient and `tail` accounts for the terms that are left
out. -/
def expSum (div : Nat → Nat → Nat) (tail : Nat → Nat) (arg unit : Nat) : Nat → Nat → Nat → Nat
  | 0, term, _ => tail term
  | terms + 1, term, n =>
    term + expSum div tail arg unit terms (div (term * arg) (n * unit)) (n + 1)

/-- A power of ten and an enclosure whose product contains the exponential of a decimal. -/
def Decimal.encloseExp (x : Decimal) (places : Nat) : Int × Enclosure :=
  let unit := 10 ^ places
  let arg := x.enclose places
  let logTen := Enclosure.logTen places
  -- One multiple less than the greatest keeps the rest away from zero.
  let tens := arg.lower / logTen.upper - 1
  let rest := arg.add (logTen.scale (-tens))
  let terms := places + 20
  -- The terms left out shrink at least twofold.
  (tens, ⟨expSum (· / ·) (fun _ => 0) rest.lower.toNat unit terms unit 1,
    expSum divUp (2 * ·) rest.upper.toNat unit terms unit 1⟩)

def Decimal.exponential (x : Decimal) : Decimal :=
  if x.coeff = 0 then .ofInt 1 else settle x.encloseExp 8 90

end Spreadsheet
