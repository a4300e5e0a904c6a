import Spreadsheet.Text.Wildcard
import Spreadsheet.Value.Broadcast

/-!
Comparison of values, by order and by wildcard pattern. Null takes the kind of the other side, a
truth value is a number next to numbers, and every text is above every number.
-/

namespace Spreadsheet

/-- A relation between two values. -/
inductive Relation where
  | equal
  | notEqual
  | less
  | lessOrEqual
  | greater
  | greaterOrEqual
deriving DecidableEq, Repr

def Relation.token : Relation → String
  | .equal => "="
  | .notEqual => "<>"
  | .less => "<"
  | .lessOrEqual => "<="
  | .greater => ">"
  | .greaterOrEqual => ">="

instance : ToString Relation := ⟨Relation.token⟩

def Relation.name : Relation → String
  | .equal => "Equals"
  | .notEqual => "NotEqual"
  | .less => "LessThan"
  | .lessOrEqual => "LessThanOrEqual"
  | .greater => "GreaterThan"
  | .greaterOrEqual => "GreaterThanOrEqual"

/-- All relations; one whose token begins another's comes later. -/
def Relation.all : List Relation :=
  [.notEqual, .lessOrEqual, .greaterOrEqual, .less, .greater, .equal]

def Relation.ofToken? (token : String) : Option Relation :=
  all.find? fun r => r.token == token

/-- The relation whose token a text begins with, and the rest of the text. -/
def Relation.split? (chars : List Char) : Option (Relation × List Char) :=
  all.findSome? fun r =>
    if r.token.toList.isPrefixOf chars then some (r, chars.drop r.token.length) else none

/-- The relation between the operands in the opposite order. -/
def Relation.reverse : Relation → Relation
  | .less => .greater
  | .lessOrEqual => .greaterOrEqual
  | .greater => .less
  | .greaterOrEqual => .lessOrEqual
  | r => r

/-- Whether a relation holds of two values in a given order. Values without an order are only
different. -/
def Relation.holds : Relation → Option Ordering → Bool
  | r, none => r = .notEqual
  | .equal, some o => o = .eq
  | .notEqual, some o => o ≠ .eq
  | .less, some o => o = .lt
  | .lessOrEqual, some o => o ≠ .gt
  | .greater, some o => o = .gt
  | .greaterOrEqual, some o => o ≠ .lt

/-- The order of two texts by code points. -/
def compareText (a b : String) : Ordering :=
  List.compareLex (fun c d => compare c.toNat d.toNat) a.toList b.toList

/-- The value that null stands for next to another one. -/
def Value.nullBeside : Value → Value
  | .text _ => .text ""
  | .bool _ => .bool false
  | _ => .ofInt 0

/-- The order of two scalars, neither of which is null. -/
def Value.compareKinds? : Value → Value → Option Ordering
  | .number a, .number b => a.compare? b
  | .bool a, .bool b => some (compare a b)
  | .text a, .text b => some (compareText a b)
  | .bool a, .number b => (Number.ofBool a).compare? b
  | .number a, .bool b => a.compare? (.ofBool b)
  | .text _, .number _ | .text _, .bool _ => some .gt
  | .number _, .text _ | .bool _, .text _ => some .lt
  | _, _ => none

def Value.compareScalars? : Value → Value → Option Ordering
  | .null, .null => some .eq
  | .null, y => compareKinds? y.nullBeside y
  | x, .null => compareKinds? x x.nullBeside
  | x, y => compareKinds? x y

def Value.scalarRelates (r : Relation) (x y : Value) : Value :=
  .bool (r.holds (x.compareScalars? y))

def Value.relates (r : Relation) : Value → Value → Value :=
  .broadcast (.scalarRelates r)

/-- Whether a scalar relates to a pattern: a text is equal to a pattern that it matches, and all
else is comparison by order. -/
def Value.scalarMatches (r : Relation) (x pattern : Value) : Value :=
  match x, pattern, r with
  | .text s, .text p, .equal => .bool (wildcardMatches p s)
  | .text s, .text p, .notEqual => .bool (!wildcardMatches p s)
  | _, _, _ => scalarRelates r x pattern

def Value.relatesToPattern (r : Relation) : Value → Value → Value :=
  .broadcast (.scalarMatches r)

end Spreadsheet
