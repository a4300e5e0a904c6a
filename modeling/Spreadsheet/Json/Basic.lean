import Spreadsheet.Binary64.Shortest
import Spreadsheet.Decimal.Text

/-!
JSON data, with integers kept apart from floating-point numbers.

Stored forms read a structure either from an object, whose unknown fields are ignored, or from a
list of its fields in order; `Json.record?` brings both to named fields.
-/

namespace Spreadsheet

/-- A JSON document. -/
inductive Json where
  | null
  | bool (b : Bool)
  /-- A number written as an integer of 64 bits, signed or unsigned. -/
  | int (n : Int)
  /-- Any other number. -/
  | float (x : Binary64)
  | str (s : String)
  | arr (items : List Json)
  /-- An object, with one entry for each key. -/
  | obj (fields : List (String × Json))

instance : Inhabited Json := ⟨.null⟩

def inUInt64 (n : Int) : Bool :=
  0 ≤ n && n < 2 ^ 64

/-- The number that a numeral denotes. One without a point and an exponent that fits 64 bits is an
integer, except that minus zero has a sign only as a double. -/
def Json.ofNumeral? (chars : List Char) : Option Json :=
  match intOfChars? chars with
  | some n =>
    if (inInt64 n || inUInt64 n) && chars ≠ ['-', '0'] then some (.int n)
    else some (.float (.ofScientific (chars.head? = some '-') n.natAbs 0))
  | none =>
    (Decimal.ofChars? chars).map fun x =>
      .float (.ofScientific (chars.head? = some '-') x.coeff.natAbs x.exp)

/-- The named fields of a structure, given by name or in order. -/
def Json.record? (names : List String) : Json → Option (List (String × Json))
  | .obj fields => some fields
  | .arr items => if items.length ≤ names.length then some (names.zip items) else none
  | _ => none

def Json.toBool? : Json → Option Bool
  | .bool b => some b
  | _ => none

def Json.toStr? : Json → Option String
  | .str s => some s
  | _ => none

def Json.toNat? : Json → Option Nat
  | .int n => if inUInt64 n then some n.toNat else none
  | _ => none

def Json.toItems? : Json → Option (List Json)
  | .arr items => some items
  | _ => none

def Json.toFields? : Json → Option (List (String × Json))
  | .obj fields => some fields
  | _ => none

/-- The name of an enumeration's case, alone or as the key of a null entry. -/
def Json.toCaseName? : Json → Option String
  | .str s => some s
  | .obj [(s, .null)] => some s
  | _ => none

/-- A field that may be missing or null. -/
def Json.optional? {α : Type} (read : Json → Option α) : Option Json → Option (Option α)
  | none | some .null => some none
  | some j => (read j).map some

def Json.ofNat (n : Nat) : Json :=
  .int n

/-- An object without the fields that have no value. -/
def Json.ofFields (fields : List (String × Option Json)) : Json :=
  .obj (fields.filterMap fun (name, value) => value.map (name, ·))

/-- The unsigned integer of 64 bits that a key denotes: its digits, without superfluous zeros. -/
def natOfKey? (key : String) : Option Nat :=
  match natOfChars? key.toList with
  | some n => if n < 2 ^ 64 ∧ Nat.toDigits 10 n = key.toList then some n else none
  | none => none

end Spreadsheet
