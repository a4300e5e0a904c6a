import Spreadsheet.Decimal.Basic

/-!
Positional decimal notation: `Decimal.toChars` writes every digit of a value without an exponent,
and `Decimal.ofChars?` reads a numeral with an optional power of ten.
-/

namespace Spreadsheet

def digitValue (c : Char) : Nat :=
  c.toNat - '0'.toNat

def natOfDigits (digits : List Char) : Nat :=
  digits.foldl (fun n c => 10 * n + digitValue c) 0

theorem natOfDigits_eq_ofDigitChars (digits : List Char) :
    natOfDigits digits = Nat.ofDigitChars 10 digits 0 :=
  Nat.ofDigitChars_eq_foldl.symm

theorem isDigit_of_mem_toDigits {n : Nat} {c : Char} (member : c ∈ Nat.toDigits 10 n) : c.isDigit :=
  Nat.isDigit_of_mem_toDigits (by decide) (by decide) member

theorem natOfDigits_toDigits (n : Nat) : natOfDigits (Nat.toDigits 10 n) = n := by
  rw [natOfDigits_eq_ofDigitChars, Nat.ofDigitChars_ten_toDigits]

/-- The unsigned number written by a nonempty run of digits. -/
def natOfChars? (digits : List Char) : Option Nat :=
  if digits ≠ [] ∧ digits.all Char.isDigit then some (natOfDigits digits) else none

/-- The integer written by digits after an optional sign. -/
def intOfChars? : List Char → Option Int
  | '+' :: digits => (natOfChars? digits).map Int.ofNat
  | '-' :: digits => (natOfChars? digits).map fun n => -Int.ofNat n
  | digits => (natOfChars? digits).map Int.ofNat

/-- The range of a signed 64-bit word, which bounds the integers kept outside decimals. -/
def inInt64 (n : Int) : Bool :=
  -2 ^ 63 ≤ n && n < 2 ^ 63

/-- Writes a decimal without an exponent: zeros fill the places up to the units, and a point stands
before the places below them. -/
def Decimal.toChars (x : Decimal) : List Char :=
  let digits := Nat.toDigits 10 x.coeff.natAbs
  let places := (-x.exp).toNat
  let padded := List.replicate (places + 1 - digits.length) '0' ++ digits
    ++ List.replicate x.exp.toNat '0'
  let whole := padded.take (padded.length - places)
  let fraction := padded.drop (padded.length - places)
  (if x.coeff < 0 then ['-'] else []) ++ whole
    ++ (if fraction = [] then [] else '.' :: fraction)

instance : ToString Decimal where
  toString x := String.ofList x.toChars

/-- The unsigned decimal written by digits with at most one point among them. -/
def Decimal.ofUnsignedChars? (chars : List Char) : Option Decimal :=
  let whole := chars.takeWhile (· ≠ '.')
  let fraction := (chars.dropWhile (· ≠ '.')).drop 1
  if chars ≠ [] ∧ (whole ++ fraction).all Char.isDigit then
    some (.ofScaled (natOfDigits (whole ++ fraction)) (-fraction.length))
  else none

/-- The decimal written by a mantissa with an optional sign. -/
def Decimal.ofMantissa? : List Char → Option Decimal
  | '-' :: chars => (ofUnsignedChars? chars).map neg
  | '+' :: chars => ofUnsignedChars? chars
  | chars => ofUnsignedChars? chars

/-- Reads a numeral: a mantissa, and after an `e` of either case the power of ten that scales it.
The value is exact; some digit has to occur, and an exponent has to fit a 64-bit word. -/
def Decimal.ofChars? (chars : List Char) : Option Decimal :=
  let isMark := fun c => c = 'e' ∨ c = 'E'
  let mantissa := chars.takeWhile fun c => ¬ isMark c
  let exponent :=
    match chars.dropWhile fun c => ¬ isMark c with
    | [] => some 0
    | _ :: digits => (intOfChars? digits).filter inInt64
  if chars.any Char.isDigit then do
    let x ← ofMantissa? mantissa
    let e ← exponent
    return .ofScaled x.coeff (x.exp + e)
  else none

end Spreadsheet
