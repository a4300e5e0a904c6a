import Spreadsheet.Number.Basic
import Spreadsheet.Text.Ascii

/-!
Errors as values of cells and formulas. An error has one of seven kinds, each with a token that
cells show, and may carry a message for diagnosis. Two errors of one kind are equal.
-/

namespace Spreadsheet

/-- The kind of an error. -/
inductive ErrorKind where
  /-- An operand of the wrong kind, or one that is missing. -/
  | value
  | divByZero
  /-- A parameter without a binding, or a result too large to write. -/
  | spill
  | name
  | reference
  /-- No value at this position. -/
  | notAvailable
  | number
deriving DecidableEq, Repr

/-- All kinds, in the order in which tokens are tried. -/
def ErrorKind.all : List ErrorKind :=
  [.value, .divByZero, .spill, .name, .reference, .notAvailable, .number]

theorem ErrorKind.mem_all (kind : ErrorKind) : kind ∈ all := by
  cases kind <;> decide

/-- The token that a cell shows. -/
def ErrorKind.token : ErrorKind → String
  | .value => "#VALUE!"
  | .divByZero => "#DIV/0!"
  | .spill => "#SPILL!"
  | .name => "#NAME?"
  | .reference => "#REF!"
  | .notAvailable => "#N/A"
  | .number => "#NUM!"

instance : ToString ErrorKind := ⟨ErrorKind.token⟩

/-- The kind with a given token, up to ASCII case and blanks around it. -/
def ErrorKind.ofToken? (token : String) : Option ErrorKind :=
  let token := trimText token
  all.find? fun kind => equalIgnoringAsciiCase kind.token token

/-- An error, with a message for diagnosis. -/
structure FormulaError where
  /-- The kind, which is all that computations see. -/
  kind : ErrorKind
  message : Option String := none

/-- Errors are equal when their kinds are. -/
instance : BEq FormulaError where
  beq a b := a.kind == b.kind

instance : ToString FormulaError := ⟨fun e => e.kind.token⟩

def FormulaError.withMessage (e : FormulaError) (message : String) : FormulaError :=
  { e with message := some message }

/-- A name that nothing answers to. -/
def FormulaError.unknownName (name : String) : FormulaError :=
  ⟨.name, some ("Unknown name: " ++ name)⟩

/-- An operand of the wrong kind. -/
def FormulaError.mismatch (expected got : String) : FormulaError :=
  ⟨.value, some ("Expected " ++ expected ++ ", got " ++ got)⟩

def FormulaError.argumentCount (name expected : String) (got : Nat) : FormulaError :=
  ⟨.value, some (name ++ "() expects " ++ expected ++ " arguments, got " ++ toString got)⟩

/-- Cells that do not fill the shape announced for them. -/
def FormulaError.unfilledGrid (rows columns count : Nat) : FormulaError :=
  ⟨.value, some (toString count ++ " cells do not fill a " ++ toString rows ++ "x"
    ++ toString columns ++ " array")⟩

/-- The error value of a failed computation with numbers. -/
def FormulaError.ofNumberError (e : NumberError) : FormulaError :=
  let kind :=
    match e with
    | .malformed _ => ErrorKind.value
    | .divisionByZero => .divByZero
    | .domain _ => .number
  ⟨kind, some e.message⟩

end Spreadsheet
