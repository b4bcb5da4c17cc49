import Inquiry.Number.Double

/-!
# Decimal texts of doubles

The shortest decimal of a double is the decimal with the fewest digits that
rounds to it, and of those the nearest.  It is found on decimal grids: for one
digit, two digits and so on up to seventeen, the two neighbours of the value on
the grid are tried against the interval of fractions that round to the value.

How digits become a text is a layout, a record that says which magnitudes are
written positionally and how an exponent looks.
-/

set_option autoImplicit false

namespace Inquiry

/-- Decimal digits without trailing zeros and the place of the point: the value is the digits read
after a point, times ten to the `place`. -/
structure Decimal where
  digits : List Char
  place : Int

namespace Decimal

/-- The decimal digits of a natural number. -/
def digitsOf (value : Nat) : List Char := Nat.toDigits 10 value

/-- A natural number times ten to an exponent, with its trailing zeros dropped. -/
def ofScaled (value : Nat) (exponent : Int) : Decimal :=
  let digits := digitsOf value
  ⟨(digits.reverse.dropWhile (· = '0')).reverse, digits.length + exponent⟩

/-! ## The shortest decimal -/

/-- The place of the point of a positive fraction: its value is below ten to the place and at
least a tenth of that. -/
def pointPlace (numerator denominator : Nat) : Int :=
  if denominator ≤ numerator then (digitsOf (numerator / denominator)).length
  else
    let size := (digitsOf (denominator / numerator)).length
    if numerator * Nat.pow 10 (size - 1) = denominator then 2 - (size : Int) else 1 - (size : Int)

/-- Fractions as pairs, compared by cross multiplication. -/
def fractionLess (left right : Nat × Nat) : Bool := left.1 * right.2 < right.1 * left.2

/-- The interval of fractions that round to a double, ends included or not. -/
structure Interval where
  low : Nat × Nat
  high : Nat × Nat
  closed : Bool

/-- Whether a fraction lies in the interval. -/
def Interval.holds (interval : Interval) (fraction : Nat × Nat) : Bool :=
  if interval.closed then
    !fractionLess fraction interval.low && !fractionLess interval.high fraction
  else fractionLess interval.low fraction && fractionLess fraction interval.high

/-- The interval of a positive finite double reaches half way to its neighbours.

The neighbour below is half as far where the significand is the least of its scale. -/
def intervalOf (number : Double) : Interval :=
  let significand := number.significand
  let unit := Nat.pow 2 number.scale
  let below := if significand = Double.fractionLimit && 1 < number.field then 1 else 2
  { low := ((4 * significand - below) * unit, 4 * Double.denominator)
    high := ((4 * significand + 2) * unit, 4 * Double.denominator)
    closed := significand % 2 = 0 }

/-- A natural number times ten to an exponent, as a fraction. -/
def scaledFraction (value : Nat) (exponent : Int) : Nat × Nat :=
  match exponent with
  | .ofNat places => (value * Nat.pow 10 places, 1)
  | .negSucc places => (value, Nat.pow 10 (places + 1))

/-- The neighbour of a value on the grid of an exponent that lies in the interval, the nearer if
both do. -/
def onGrid? (interval : Interval) (value : Nat × Nat) (exponent : Int) : Option Decimal :=
  let unit := scaledFraction 1 exponent
  let below := value.1 * unit.2 / (value.2 * unit.1)
  let lowHolds := 0 < below && interval.holds (scaledFraction below exponent)
  let highHolds := interval.holds (scaledFraction (below + 1) exponent)
  let twiceRest := 2 * (value.1 * unit.2 % (value.2 * unit.1))
  let nearerAbove := value.2 * unit.1 < twiceRest ||
    (value.2 * unit.1 = twiceRest && below % 2 = 1)
  match lowHolds, highHolds with
  | true, true => some (ofScaled (if nearerAbove then below + 1 else below) exponent)
  | true, false => some (ofScaled below exponent)
  | false, true => some (ofScaled (below + 1) exponent)
  | false, false => none

/-- The first of `count` grids, each ten times as fine as the one before, that has a neighbour. -/
def firstGrid (interval : Interval) (value : Nat × Nat) : (count : Nat) → (exponent : Int) → Decimal
  | 0, exponent =>
      let unit := scaledFraction 1 exponent
      ofScaled (Double.roundQuotient (value.1 * unit.2) (value.2 * unit.1)) exponent
  | count + 1, exponent =>
      match onGrid? interval value exponent with
      | some decimal => decimal
      | none => firstGrid interval value count (exponent - 1)

/-- The shortest decimal of the absolute value of a finite double. -/
def shortest (number : Double) : Decimal :=
  if number.magnitude = 0 then ⟨[], 0⟩
  else
    let value := (number.numerator, Double.denominator)
    firstGrid (intervalOf number) value 17 (pointPlace value.1 value.2 - 1)

/-- The absolute value of a finite double rounded to a number of significant digits, a half going
away from zero. -/
def significant (count : Nat) (number : Double) : Decimal :=
  if number.magnitude = 0 then ⟨[], 0⟩
  else
    let value := (number.numerator, Double.denominator)
    let exponent := pointPlace value.1 value.2 - count
    let unit := scaledFraction 1 exponent
    ofScaled ((2 * value.1 * unit.2 + value.2 * unit.1) / (2 * (value.2 * unit.1))) exponent

/-! ## Layouts -/

/-- How a decimal is written. -/
structure Layout where
  /-- The least place of the point that is written positionally; none is no limit. -/
  least : Option Int
  /-- The greatest place of the point that is written positionally; none is no limit. -/
  greatest : Option Int
  /-- A whole number written positionally ends in a point and a zero. -/
  wholePoint : Bool
  /-- A single digit before an exponent is followed by a point and a zero. -/
  exponentPoint : Bool
  /-- The least number of digits of an exponent. -/
  exponentWidth : Nat

/-- Zeros in a row. -/
def zeros (count : Nat) : List Char := List.replicate count '0'

/-- The digits of an exponent, filled up with zeros in front. -/
def Layout.exponentDigits (layout : Layout) (value : Nat) : List Char :=
  let digits := digitsOf value
  zeros (layout.exponentWidth - digits.length) ++ digits

/-- The text of a decimal without an exponent. -/
def Layout.positional (layout : Layout) (decimal : Decimal) : List Char :=
  let whole : List Char := if layout.wholePoint then ['.', '0'] else []
  match decimal.place with
  | .negSucc places => '0' :: '.' :: zeros (places + 1) ++ decimal.digits
  | .ofNat places =>
      if decimal.digits.length ≤ places then
        let digits := decimal.digits ++ zeros (places - decimal.digits.length)
        (if digits.isEmpty then ['0'] else digits) ++ whole
      else
        let front := decimal.digits.take places
        (if front.isEmpty then ['0'] else front) ++ '.' :: decimal.digits.drop places

/-- The text of a decimal with an exponent, one digit standing before the point. -/
def Layout.exponential (layout : Layout) (decimal : Decimal) : List Char :=
  let front := decimal.digits.take 1
  let rest := decimal.digits.drop 1
  let fraction : List Char :=
    if rest.isEmpty then (if layout.exponentPoint then ['.', '0'] else []) else '.' :: rest
  let exponent := decimal.place - 1
  let sign := if exponent < 0 then '-' else '+'
  front ++ fraction ++ 'e' :: sign :: layout.exponentDigits exponent.natAbs

/-- Whether a place is within the limits of the layout; zero always is. -/
def Layout.isPositional (layout : Layout) (decimal : Decimal) : Bool :=
  decimal.digits.isEmpty ||
    (layout.least.all (fun least => least ≤ decimal.place) &&
      layout.greatest.all (fun greatest => decimal.place ≤ greatest))

/-- The text of a decimal in a layout. -/
def Layout.write (layout : Layout) (decimal : Decimal) : List Char :=
  if layout.isPositional decimal then layout.positional decimal else layout.exponential decimal

/-- The text of a finite double in a layout, from its shortest decimal. -/
def Layout.writeShortest (layout : Layout) (number : Double) : List Char :=
  let text := layout.write (shortest number)
  if number.isNegative then '-' :: text else text

/-- A plain number: never an exponent, and a whole number without a point. -/
def plainLayout : Layout :=
  { least := none, greatest := none, wholePoint := false, exponentPoint := false,
    exponentWidth := 1 }

/-- The plain text of any double. -/
def plainText (number : Double) : String :=
  if number.isNaN then "NaN"
  else if number.isFinite then String.ofList (plainLayout.writeShortest number)
  else if number.isNegative then "-inf"
  else "inf"

/-- The text of a double with one digit after the point, the exact value being rounded and a half
going to the even neighbour. -/
def oneDigitText (number : Double) : String :=
  if number.isNaN then "NaN"
  else if number.isFinite then
    let tenths := Double.roundQuotient (number.numerator * 10) Double.denominator
    let body := digitsOf (tenths / 10) ++ '.' :: digitsOf (tenths % 10)
    String.ofList (if number.isNegative then '-' :: body else body)
  else if number.isNegative then "-inf"
  else "inf"

end Decimal

end Inquiry
