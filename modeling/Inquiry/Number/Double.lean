/-!
# Binary floating-point numbers of 64 bits

A double is kept as its bits: a sign, a field of eleven bits for the exponent
and a fraction of fifty-two.  Its value is an exact fraction, and every
operation here computes that fraction exactly and rounds once, to the nearest
double and on a tie to the one whose last bit is zero.  Comparisons go through
a key, an integer that grows with the value.
-/

set_option autoImplicit false

namespace Inquiry

/-- A floating-point number of 64 bits. -/
structure Double where
  bits : UInt64
deriving DecidableEq

namespace Double

/-! ## Parts -/

/-- The sign bit as a number: the bits of a negative double are at least this. -/
def signBit : Nat := 0x8000000000000000

/-- The bits of infinity; a magnitude above them is not a number. -/
def infinityBits : Nat := 0x7ff0000000000000

/-- Whether the sign is negative, also of a zero. -/
def isNegative (number : Double) : Bool := signBit ≤ number.bits.toNat

/-- The bits without the sign. -/
def magnitude (number : Double) : Nat := number.bits.toNat % signBit

/-- The double with a sign and the bits of a magnitude. -/
def ofMagnitude (negative : Bool) (magnitude : Nat) : Double :=
  ⟨UInt64.ofNat (if negative then signBit + magnitude else magnitude)⟩

/-- Whether the double is not a number. -/
def isNaN (number : Double) : Bool := infinityBits < number.magnitude

/-- Whether the double is a number and not infinite. -/
def isFinite (number : Double) : Bool := number.magnitude < infinityBits

/-- The least number that does not fit the bits of the fraction. -/
def fractionLimit : Nat := 0x10000000000000

/-- The field of the exponent. -/
def field (number : Double) : Nat := number.magnitude / fractionLimit

/-- The value of a finite double is its significand times two to its scale less 1074. -/
def significand (number : Double) : Nat :=
  if number.field = 0 then number.magnitude else number.magnitude % fractionLimit + fractionLimit

/-- How many factors of two the value has beyond those of the least positive double. -/
def scale (number : Double) : Nat := number.field - 1

/-- The numerator of the absolute value of a finite double. -/
def numerator (number : Double) : Nat := number.significand * Nat.pow 2 number.scale

/-- The denominator that goes with `numerator`, the same for all finite doubles. -/
def denominator : Nat := Nat.pow 2 1074

/-! ## Rounding -/

/-- The quotient rounded to the nearest integer, a half going to the even neighbour. -/
def roundQuotient (numerator denominator : Nat) : Nat :=
  let quotient := numerator / denominator
  let twiceRest := 2 * (numerator % denominator)
  if twiceRest < denominator then quotient
  else if denominator < twiceRest then quotient + 1
  else quotient + quotient % 2

/-- The factors of two to take out of a positive fraction, scaled by the least positive double,
so that fifty-three digits are left before the point, or none if there are fewer. -/
def scaleOf (numerator denominator : Nat) : Nat :=
  let units := numerator * Double.denominator / denominator
  units.log2 - 52

/-- The bits of the magnitude nearest to a fraction. -/
def nearestMagnitude (numerator denominator : Nat) : Nat :=
  let scale := scaleOf numerator denominator
  let rounded := roundQuotient (numerator * Double.denominator) (denominator * Nat.pow 2 scale)
  min (scale * fractionLimit + rounded) infinityBits

/-- The double nearest to a fraction with a sign. -/
def ofFraction (negative : Bool) (numerator denominator : Nat) : Double :=
  ofMagnitude negative (nearestMagnitude numerator denominator)

/-- The double nearest to a natural number. -/
def ofNat (value : Nat) : Double := ofFraction false value 1

/-- The double nearest to an integer. -/
def ofInt (value : Int) : Double := ofFraction (value < 0) value.natAbs 1

/-- Positive zero. -/
def zero : Double := ⟨0⟩

/-- One. -/
def one : Double := ofNat 1

/-- The double nearest to `digits` times ten to the `exponent`. -/
def ofDecimal (negative : Bool) (digits : Nat) (exponent : Int) : Double :=
  match exponent with
  | .ofNat places => ofFraction negative (digits * Nat.pow 10 places) 1
  | .negSucc places => ofFraction negative digits (Nat.pow 10 (places + 1))

/-! ## Arithmetic on finite doubles -/

/-- The value of a finite double as a signed number of least positive doubles. -/
def units (number : Double) : Int :=
  if number.isNegative then -(number.numerator : Int) else number.numerator

/-- The double nearest to a signed number of least positive doubles, divided by `divisor`. -/
def ofUnits (units : Int) (divisor : Nat) : Double :=
  ofFraction (units < 0) units.natAbs (denominator * divisor)

/-- The sum of two finite doubles, rounded once. -/
def add (left right : Double) : Double := ofUnits (left.units + right.units) 1

/-- The difference of two finite doubles, rounded once. -/
def sub (left right : Double) : Double := ofUnits (left.units - right.units) 1

/-- The product of two finite doubles, rounded once. -/
def mul (left right : Double) : Double :=
  ofFraction (left.isNegative != right.isNegative) (left.numerator * right.numerator)
    (denominator * denominator)

/-- The quotient of a finite double by a finite double other than zero, rounded once. -/
def div (left right : Double) : Double :=
  ofFraction (left.isNegative != right.isNegative) left.numerator right.numerator

/-! ## Order -/

/-- A key that grows with the value; the two zeros share it. -/
def valueKey (number : Double) : Int :=
  if number.isNegative then -(number.magnitude : Int) else number.magnitude

/-- A key of the total order, in which the negative zero stands below the positive one. -/
def totalKey (number : Double) : Int :=
  if number.isNegative then -(number.magnitude : Int) - 1 else number.magnitude

/-- Whether two numbers are equal in value; not a number equals nothing. -/
def sameValue (left right : Double) : Bool :=
  !left.isNaN && !right.isNaN && left.valueKey = right.valueKey

/-- Whether the first number is less; not a number is never less. -/
def less (left right : Double) : Bool :=
  !left.isNaN && !right.isNaN && left.valueKey < right.valueKey

/-- Whether the first number is at most the second. -/
def atMost (left right : Double) : Bool :=
  !left.isNaN && !right.isNaN && left.valueKey ≤ right.valueKey

/-- Whether the number lies between zero and one. -/
def inUnitInterval (number : Double) : Bool := zero.atMost number && number.atMost one

end Double

end Inquiry
