import Inquiry.Check.Fault
import Inquiry.Moment

/-!
# Values that fit a field

The value of a condition must fit the kind of its field: an integer, a truth
value, a number, a date, a time or a text.  A list is needed for membership and
a text for a pattern, and only a field that may be empty is compared with null.
-/

set_option autoImplicit false

namespace Inquiry.Check

/-- What a single value of a kind of field is expected to be. -/
def expectationOf : FieldType → Expectation
  | .int => .integer
  | .check => .truth
  | .float | .currency | .percent => .number
  | .date => .date
  | .datetime => .datetime
  | .time => .time
  | .data | .link | .choice | .text | .smallText => .text

/-- Whether a value is a text that passes a test. -/
def textIs (test : List Char → Bool) : Json → Bool
  | .string text => test text.toList
  | _ => false

/-- Whether a value other than null meets an expectation. -/
def meets (value : Json) : Expectation → Bool
  | .integer => match value with
    | .number number => number.isInteger
    | _ => false
  | .truth => match value with
    | .bool _ => true
    | .number number => number.integer? = some 0 || number.integer? = some 1
    | _ => false
  | .number => match value with
    | .number _ => true
    | _ => false
  | .date => textIs (fun text => (Moment.date? text).isSome) value
  | .datetime => textIs (fun text => (Moment.momentOrDate? text).isSome) value
  | .time => textIs (fun text => (Moment.time? text).isSome) value
  | .text => value.string?.isSome
  | .pattern => value.string?.isSome
  | .nonEmptyList => match value with
    | .array items => !items.isEmpty
    | _ => false
  | .someValue => !value.isNull

/-- A single value must fit its field. -/
def scalar (field : Field) (value : Json) : Except CheckFault Unit :=
  if value.isNull then
    if field.nullable then .ok () else .error (.mismatch field .someValue value)
  else if meets value (expectationOf field.type) then .ok ()
  else .error (.mismatch field (expectationOf field.type) value)

/-- Every value of a list must fit the field. -/
def scalars (field : Field) : List Json → Except CheckFault Unit
  | [] => .ok ()
  | value :: rest => do
      scalar field value
      scalars field rest

/-- The value of a condition must fit its field and its comparison. -/
def value (field : Field) (comparison : Comparison) (given : Json) : Except CheckFault Unit :=
  match comparison with
  | .isIn | .notIn =>
      match given with
      | .array (first :: rest) => scalars field (first :: rest)
      | _ => .error (.mismatch field .nonEmptyList given)
  | .like => if given.string?.isSome then .ok () else .error (.mismatch field .pattern given)
  | _ => scalar field given

end Inquiry.Check
