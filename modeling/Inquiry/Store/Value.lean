import Inquiry.Catalog.Entity
import Inquiry.Json.Writer
import Inquiry.Number.Reading

/-!
# Values in the record store

A value in the store is null, an integer, a real or a text.  A column has a
type that bends values towards it: a text column keeps numbers as their texts,
a number column keeps texts that read as numbers as these numbers, and a real
column keeps integers as reals; what cannot be bent stays as it is.  The same
is done to the value that a column is compared with.

Numbers are compared by their exact values and texts by their bytes; every
text is greater than every number, and a comparison with null has no answer.
-/

set_option autoImplicit false

namespace Inquiry

/-- A value in the record store. -/
inductive SqlValue where
  | null
  | integer (value : Int)
  | real (value : Double)
  | text (value : String)
deriving DecidableEq

namespace SqlValue

/-! ## From JSON and back -/

/-- The value that stands for a JSON value: truth values are numbers, collections are texts. -/
def ofJson : Json → SqlValue
  | .null => .null
  | .bool value => .integer (if value then 1 else 0)
  | .number number =>
      match number.integer? with
      | some value => .integer value
      | none => .real number.toDouble
  | .string value => .text value
  | other => .text other.text

/-- The JSON value that a value is shown as; a real that is not finite is shown as null. -/
def toJson : SqlValue → Json
  | .null => .null
  | .integer value => .integer value
  | .real value => if value.isFinite then .double value else .null
  | .text value => .string value

/-! ## Numbers and their texts -/

/-- Reals as texts: always with a point, and with an exponent outside 0.0001 to 10^15. -/
def realLayout : Decimal.Layout :=
  { least := some (-3), greatest := some 15, wholePoint := true, exponentPoint := true,
    exponentWidth := 2 }

/-- The text of a real: at most fifteen significant digits. -/
def realText (value : Double) : String :=
  let text := realLayout.write (Decimal.significant 15 value)
  if value.isFinite then
    String.ofList (if value.isNegative && value.magnitude ≠ 0 then '-' :: text else text)
  else if value.isNegative then "-Inf"
  else "Inf"

/-- The integer that a real is, if it is one of 64 bits and neither the least nor the greatest. -/
def whole? (value : Double) : Option Int :=
  let quotient := value.units / Double.denominator
  if value.units % Double.denominator = 0 && -Word.signedLimit < quotient &&
      quotient < Word.signedLimit - 1 then some quotient
  else none

/-- A real as an integer, if it is one. -/
def wholeOrReal (value : Double) : SqlValue :=
  match whole? value with
  | some quotient => .integer quotient
  | none => .real value

/-- A blank that may stand around a number. -/
def isNumberBlank (symbol : Char) : Bool :=
  symbol = ' ' || (0x09 ≤ symbol.toNat && symbol.toNat ≤ 0x0d)

/-- The real that a text reads as, perhaps with a sign. -/
def real? (text : List Char) : Option Double :=
  match text with
  | '-' :: rest => Reading.unsignedDouble? true rest
  | '+' :: rest => Reading.unsignedDouble? false rest
  | _ => Reading.unsignedDouble? false text

/-- The number that a text reads as, blanks around it aside. -/
def number? (text : String) : Option SqlValue :=
  let digits := Text.trimWhere isNumberBlank text.toList
  match Reading.integer? digits with
  | some value => some (.integer value)
  | none => (real? digits).map wholeOrReal

/-! ## Types of columns -/

/-- A value as a column of a type keeps it. -/
def kept : ColumnType → SqlValue → SqlValue
  | .text, .integer value => .text (toString value)
  | .text, .real value => .text (realText value)
  | .integer, .real value => wholeOrReal value
  | .integer, .text value => (number? value).getD (.text value)
  | .real, .integer value => .real (Double.ofInt value)
  | .real, .real value => if value.magnitude = 0 then .real Double.zero else .real value
  | .real, .text value =>
      match number? value with
      | some (.integer whole) => .real (Double.ofInt whole)
      | some number => number
      | none => .text value
  | _, value => value

/-- A value as it is compared with one of a column; what is no column has no type. -/
def compared : Option ColumnType → SqlValue → SqlValue
  | some .text, value => kept .text value
  | some _, .text value => (number? value).getD (.text value)
  | _, value => value

/-! ## Order -/

/-- The exact value of a number, in units that make every double an integer. -/
def units : SqlValue → Int
  | .integer value => value * Double.denominator
  | .real value => value.units
  | _ => 0

/-- How two values compare; a comparison with null has no answer. -/
def order? : SqlValue → SqlValue → Option Ordering
  | .null, _ => none
  | _, .null => none
  | .text left, .text right => some (compare left right)
  | .text _, _ => some .gt
  | _, .text _ => some .lt
  | left, right => some (compare left.units right.units)

/-- The order in which rows are sorted, null being least. -/
def sortOrder : SqlValue → SqlValue → Ordering
  | .null, .null => .eq
  | .null, _ => .lt
  | _, .null => .gt
  | left, right => (order? left right).getD .eq

end SqlValue

end Inquiry
