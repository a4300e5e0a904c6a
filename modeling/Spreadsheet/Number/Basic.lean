import Spreadsheet.Binary64.Shortest
import Spreadsheet.Decimal.Text
import Spreadsheet.Text.Blank

/-!
Spreadsheet numbers: decimals, and the infinities and NaN that a decimal cannot be.

Arithmetic on two decimals stays decimal. As soon as one operand is not finite, both are taken to
double precision and the operation is carried out there.
-/

namespace Spreadsheet

/-- A number in a cell or a formula. -/
inductive Number where
  | decimal (value : Decimal)
  | infinity (negative : Bool)
  /-- The result of an undefined combination of infinities. -/
  | nan
deriving DecidableEq

/-- Why a number could not be computed. -/
inductive NumberError where
  | malformed (text : String)
  | divisionByZero
  | domain (detail : String)
deriving DecidableEq

def NumberError.message : NumberError → String
  | .malformed text => "Invalid number format: " ++ text
  | .divisionByZero => "Division by zero"
  | .domain detail => "Domain error: " ++ detail

def Number.ofInt (n : Int) : Number :=
  .decimal (Decimal.ofInt n).round

instance : Inhabited Number := ⟨.ofInt 0⟩

/-- The number of a double: of a finite one, the shortest decimal that reads back as it. -/
def Number.ofBinary64 : Binary64 → Number
  | .nan => .nan
  | .infinity negative => .infinity negative
  | .finite negative m e => .decimal (.ofDouble negative m e)

/-! ## Predicates -/

def Number.isZero : Number → Bool
  | .decimal x => x.coeff = 0
  | _ => false

def Number.isNegative : Number → Bool
  | .decimal x => x.coeff < 0
  | .infinity negative => negative
  | .nan => false

def Number.isInfinite : Number → Bool
  | .infinity _ => true
  | _ => false

def Number.isFinite : Number → Bool
  | .decimal _ => true
  | _ => false

def Number.isNaN : Number → Bool
  | .nan => true
  | _ => false

def Number.isInteger : Number → Bool
  | .decimal x => x.isInteger
  | _ => false

/-! ## Views as an integer and as a double -/

/-- The integer in the range of a signed 64-bit word that equals the decimal. Eighteen is the
greatest power of ten that such a word holds. -/
def Decimal.toInt64? (x : Decimal) : Option Int :=
  if 0 ≤ x.exp ∧ x.exp ≤ 18 then some (x.coeff * 10 ^ x.exp.toNat) |>.filter inInt64 else none

/-- The integer in the range of a signed 64-bit word that equals the number. -/
def Number.toInt64? : Number → Option Int
  | .decimal x => x.toInt64?
  | _ => none

/-- The 53 leading binary digits of an integer, the ones after them cut off toward minus
infinity. -/
def leadingBits (n : Int) : Int :=
  let surplus := if n = 0 then 0 else n.natAbs.log2 + 1 - 53
  n / 2 ^ surplus * 2 ^ surplus

/-- A double close to the decimal: its leading bits, multiplied or divided by a power of ten. There
is none for an exponent beyond 308 in magnitude, nor for a value beyond every double. -/
def Decimal.toBinary64? (x : Decimal) : Option Binary64 :=
  let leading := Binary64.ofInt (leadingBits x.coeff)
  let ten := Binary64.ofInt 10
  let scaled? :=
    if x.exp = 0 then some leading
    else if 1 ≤ x.exp ∧ x.exp ≤ 308 then some (leading.mul (ten.powNat x.exp.toNat))
    else if -308 ≤ x.exp ∧ x.exp ≤ -1 then some (leading.div (ten.powNat (-x.exp).toNat))
    else none
  scaled?.filter Binary64.isFinite

/-- A double close to the number, if there is one. -/
def Number.toBinary64? : Number → Option Binary64
  | .nan => some .nan
  | .infinity negative => some (.infinity negative)
  | .decimal x => x.toBinary64?

/-- A double close to the number; a decimal without one counts as the infinity of its sign. -/
def Number.toBinary64 (x : Number) : Binary64 :=
  x.toBinary64?.getD (.infinity x.isNegative)

/-! ## Arithmetic -/

def Number.viaBinary64 (op : Binary64 → Binary64 → Binary64) (x y : Number) : Number :=
  .ofBinary64 (op x.toBinary64 y.toBinary64)

def Number.add : Number → Number → Number
  | .decimal x, .decimal y => .decimal (x.add y)
  | x, y => viaBinary64 .add x y

def Number.sub : Number → Number → Number
  | .decimal x, .decimal y => .decimal (x.sub y)
  | x, y => viaBinary64 .sub x y

def Number.mul : Number → Number → Number
  | .decimal x, .decimal y => .decimal (x.mul y)
  | x, y => viaBinary64 .mul x y

/-- The quotient; a zero divisor is an error, also below an infinity. -/
def Number.div? (x y : Number) : Except NumberError Number :=
  if y.isZero then .error .divisionByZero
  else
    match x, y with
    | .decimal x, .decimal y => .ok (.decimal (x.div y))
    | x, y => .ok (viaBinary64 .div x y)

def Number.neg : Number → Number
  | .decimal x => .decimal x.neg
  | .infinity negative => .infinity !negative
  | .nan => .nan

/-! ## Order -/

/-- The order of two numbers. Next to an infinity it is the order of the doubles. -/
def Number.compare? : Number → Number → Option Ordering
  | .decimal x, .decimal y => some (x.compare y)
  | x, y => x.toBinary64.compare? y.toBinary64

/-- Whether two numbers are equal in that order. NaN is not equal to itself. -/
def Number.equal (x y : Number) : Bool :=
  x.compare? y = some .eq

/-! ## Text -/

/-- The text of a number: an integer in full, another decimal through its double, and one without
a double with all its digits. -/
def Number.toText : Number → String
  | .nan => "NaN"
  | .infinity negative => if negative then "-Infinity" else "Infinity"
  | .decimal x =>
    match x.toInt64?, x.toBinary64? with
    | some n, _ => toString n
    | none, some (.finite negative m e) => toString (Decimal.ofDouble negative m e)
    | none, _ => toString x

instance : ToString Number := ⟨Number.toText⟩

/-- Reads a number after removing the blanks around it and a leading plus sign. -/
def Number.ofText? (text : String) : Except NumberError Number :=
  let trimmed := trimBlanks text.toList
  let body :=
    match trimmed with
    | '+' :: rest => rest
    | body => body
  match Decimal.ofChars? body with
  | some x => .ok (.decimal x.round)
  | none => .error (.malformed (.ofList trimmed))

end Spreadsheet
