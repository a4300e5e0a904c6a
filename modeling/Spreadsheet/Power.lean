/-!
Powers with a natural exponent. They are those of the core library, also where algebraic structures
with powers of their own are in scope, so `2 ^ n` has one meaning throughout.
-/

namespace Spreadsheet

attribute [default_instance 20000] instPowNat
attribute [instance (2000)] instPowNat

end Spreadsheet
