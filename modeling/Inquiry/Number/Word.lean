/-!
# Integers of 64 bits

A word of 64 bits holds either a natural number below `limit`, or an integer
whose sign takes one of the bits.
-/

set_option autoImplicit false

namespace Inquiry

namespace Word

/-- The least natural number that does not fit a word. -/
def limit : Nat := 0x10000000000000000

/-- The least natural number that does not fit a word with a sign. -/
def signedLimit : Int := 0x8000000000000000

/-- Whether an integer fits a word with a sign. -/
def fitsSigned (value : Int) : Bool := -signedLimit ≤ value && value < signedLimit

end Word

end Inquiry
