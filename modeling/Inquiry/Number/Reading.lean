import Inquiry.Number.Double
import Inquiry.Number.Word

/-!
# Reading numbers

Settings and limits are given as texts.  A natural number is digits after an
optional plus sign; an integer may have either sign; a decimal number may have
a point and an exponent, and is rounded once to the nearest double.  Nothing
else may stand in the text, blanks included.
-/

set_option autoImplicit false

namespace Inquiry.Reading

/-- The value of a list of decimal digits. -/
def digitsValue (digits : List Char) : Nat :=
  digits.foldl (fun value digit => 10 * value + (digit.toNat - 48)) 0

/-- The code of a decimal digit. -/
theorem toNat_of_isDigit {digit : Char} (isDigit : digit.isDigit = true) :
    48 ≤ digit.toNat ∧ digit.toNat ≤ 57 := by
  simp only [Char.isDigit, Bool.and_eq_true, decide_eq_true_eq] at isDigit
  exact isDigit

/-- The value of a text of one or more decimal digits. -/
def digits? (text : List Char) : Option Nat :=
  if !text.isEmpty && text.all Char.isDigit then some (digitsValue text) else none

/-- A natural number at most `greatest`, with an optional plus sign. -/
def natural? (greatest : Nat) (text : List Char) : Option Nat :=
  let digits := match text with
    | '+' :: rest => rest
    | _ => text
  (digits? digits).filter (fun value => value ≤ greatest)

/-- An integer of 64 bits with an optional sign. -/
def integer? (text : List Char) : Option Int :=
  let value : Option Int := match text with
    | '+' :: rest => (digits? rest).map Int.ofNat
    | '-' :: rest => (digits? rest).map (fun value => -(value : Int))
    | _ => (digits? text).map Int.ofNat
  value.filter Word.fitsSigned

/-- A whole number with an optional sign, of any size. -/
def signed? (text : List Char) : Option Int :=
  match text with
  | '+' :: rest => (digits? rest).map Int.ofNat
  | '-' :: rest => (digits? rest).map (fun value => -(value : Int))
  | _ => (digits? text).map Int.ofNat

/-- The digits before the point and after it, and the text that follows. -/
def mantissa (text : List Char) : List Char × List Char × List Char :=
  let front := text.takeWhile Char.isDigit
  match text.dropWhile Char.isDigit with
  | '.' :: rest => (front, rest.takeWhile Char.isDigit, rest.dropWhile Char.isDigit)
  | rest => (front, [], rest)

/-- The exponent that a text holds whole; the empty text stands for zero. -/
def exponent? (text : List Char) : Option Int :=
  match text with
  | [] => some 0
  | 'e' :: rest => signed? rest
  | 'E' :: rest => signed? rest
  | _ => none

/-- The double of digits times ten to an exponent.

An exponent so large or so small that the result is infinite or zero is settled without computing
the power. -/
def scaledDouble (negative : Bool) (digits : Nat) (length : Nat) (exponent : Int) : Double :=
  if digits = 0 then Double.ofMagnitude negative 0
  else if 400 < exponent then Double.ofMagnitude negative Double.infinityBits
  else if exponent + length < -400 then Double.ofMagnitude negative 0
  else Double.ofDecimal negative digits exponent

/-- A decimal number without a sign. -/
def unsignedDouble? (negative : Bool) (text : List Char) : Option Double :=
  let (front, back, rest) := mantissa text
  if front.isEmpty && back.isEmpty then none
  else
    (exponent? rest).map fun exponent =>
      scaledDouble negative (digitsValue (front ++ back)) (front ++ back).length
        (exponent - back.length)

/-- The words for numbers that are not finite, in lower case. -/
def namedDouble? (negative : Bool) (text : List Char) : Option Double :=
  let lowered := String.ofList (text.map Char.toLower)
  if lowered = "inf" || lowered = "infinity" then
    some (Double.ofMagnitude negative Double.infinityBits)
  else if lowered = "nan" then
    some (Double.ofMagnitude negative (Double.infinityBits + Double.fractionLimit / 2))
  else none

/-- A double with an optional sign. -/
def double? (text : List Char) : Option Double :=
  let (negative, rest) := match text with
    | '-' :: rest => (true, rest)
    | '+' :: rest => (false, rest)
    | _ => (false, text)
  match namedDouble? negative rest with
  | some number => some number
  | none => unsignedDouble? negative rest

end Inquiry.Reading
