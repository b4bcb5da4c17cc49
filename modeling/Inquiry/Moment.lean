import Inquiry.Number.Reading
import Inquiry.Text.Blank

/-!
# Dates and times

Texts are read as calendar dates, times of day and moments.  A number in them
may have blanks in front and fewer digits than is usual; a year may have a sign
and then any number of digits.  The internet form of a moment is stricter: its
numbers have exactly the usual digits, and it ends in an offset from universal
time.  A minute may have a sixty-first second.
-/

set_option autoImplicit false

namespace Inquiry

/-! ## Dates, times and moments -/

/-- A date of the calendar. -/
structure CalendarDate where
  year : Int
  month : Nat
  day : Nat
deriving DecidableEq

/-- A time of day. -/
structure TimeOfDay where
  hour : Nat
  minute : Nat
  second : Nat := 0
  nanosecond : Nat := 0
deriving DecidableEq

/-- A date with a time, and the offset from universal time in minutes, if it is known. -/
structure Moment where
  date : CalendarDate
  time : TimeOfDay := ⟨0, 0, 0, 0⟩
  offset : Option Int := none
deriving DecidableEq

namespace CalendarDate

/-- Whether a year has a leap day. -/
def isLeapYear (year : Int) : Bool :=
  year % 4 = 0 && (year % 100 != 0 || year % 400 = 0)

/-- The number of days of a month. -/
def daysIn (year : Int) (month : Nat) : Nat :=
  match month with
  | 2 => if isLeapYear year then 29 else 28
  | 4 | 6 | 9 | 11 => 30
  | _ => 31

/-- The years that dates can have. -/
def hasYear (year : Int) : Bool := -262143 ≤ year && year ≤ 262142

/-- The date of three numbers, if the calendar has it. -/
def ofNumbers? (year : Int) (month day : Nat) : Option CalendarDate :=
  if hasYear year && 1 ≤ month && month ≤ 12 && 1 ≤ day && day ≤ daysIn year month then
    some ⟨year, month, day⟩
  else none

end CalendarDate

namespace TimeOfDay

/-- The time of four numbers, if a day has it. -/
def ofNumbers? (hour minute second nanosecond : Nat) : Option TimeOfDay :=
  if hour < 24 && minute < 60 && second ≤ 60 then some ⟨hour, minute, second, nanosecond⟩
  else none

end TimeOfDay

/-! ## Reading -/

namespace Moment

/-- At least `least` and at most `most` digits at the start of a text, and the rest. -/
def digitsBetween (least most : Nat) (text : List Char) : Option (Nat × List Char) :=
  let digits := (text.take most).takeWhile Char.isDigit
  if digits.length < least then none
  else some (Reading.digitsValue digits, text.drop digits.length)

/-- Any number of digits at the start of a text, at least one, and the rest. -/
def someDigits (text : List Char) : Option (Nat × List Char) :=
  digitsBetween 1 text.length text

/-- A given character at the start of a text is dropped. -/
def expect (symbol : Char) : List Char → Option (List Char)
  | [] => none
  | first :: rest => if first = symbol then some rest else none

/-- A number of one or two digits after blanks. -/
def looseTwo (text : List Char) : Option (Nat × List Char) :=
  digitsBetween 1 2 (Text.trimStart text)

/-- A year after blanks: up to four digits, or a sign and any number of digits. -/
def looseYear (text : List Char) : Option (Int × List Char) :=
  match Text.trimStart text with
  | '-' :: rest => (someDigits rest).map fun (year, rest) => (-(year : Int), rest)
  | '+' :: rest => (someDigits rest).map fun (year, rest) => ((year : Int), rest)
  | rest => (digitsBetween 1 4 rest).map fun (year, rest) => ((year : Int), rest)

/-- Year, month and day with hyphens between. -/
def looseDate (text : List Char) : Option (CalendarDate × List Char) := do
  let (year, text) ← looseYear text
  let (month, text) ← looseTwo (← expect '-' text)
  let (day, text) ← looseTwo (← expect '-' text)
  return (← CalendarDate.ofNumbers? year month day, text)

/-- Hour and minute with a colon between. -/
def looseHourMinute (text : List Char) : Option (Nat × Nat × List Char) := do
  let (hour, text) ← looseTwo text
  let (minute, text) ← looseTwo (← expect ':' text)
  return (hour, minute, text)

/-- Hour, minute and second with colons between. -/
def looseTime (text : List Char) : Option (Nat × Nat × Nat × List Char) := do
  let (hour, minute, text) ← looseHourMinute text
  let (second, text) ← looseTwo (← expect ':' text)
  return (hour, minute, second, text)

/-- A fraction of a second in nanoseconds: a point and digits, of which nine count; or nothing. -/
def fraction (text : List Char) : Option (Nat × List Char) :=
  match text with
  | '.' :: rest =>
      let digits := rest.takeWhile Char.isDigit
      if digits.isEmpty then none
      else
        let counted := digits.take 9
        some (Reading.digitsValue counted * Nat.pow 10 (9 - counted.length),
          rest.dropWhile Char.isDigit)
  | _ => some (0, text)

/-- What is read counts only if nothing is left of the text. -/
def whole {Value : Type} : Option (Value × List Char) → Option Value
  | some (value, []) => some value
  | _ => none

/-- The date of a text. -/
def date? (text : List Char) : Option CalendarDate := whole (looseDate text)

/-- The time of a text, with or without seconds. -/
def time? (text : List Char) : Option TimeOfDay :=
  let withSeconds := do
    let (hour, minute, second, rest) ← looseTime text
    return (← TimeOfDay.ofNumbers? hour minute second 0, rest)
  let withoutSeconds := do
    let (hour, minute, rest) ← looseHourMinute text
    return (← TimeOfDay.ofNumbers? hour minute 0 0, rest)
  (whole withSeconds).or (whole withoutSeconds)

/-- A date and a time with blanks or nothing between, the seconds perhaps with a fraction. -/
def spaced? (text : List Char) : Option Moment := whole do
  let (date, text) ← looseDate text
  let (hour, minute, second, text) ← looseTime (Text.trimStart text)
  let (nanosecond, text) ← fraction text
  return ({ date, time := ← TimeOfDay.ofNumbers? hour minute second nanosecond }, text)

/-- A date and a time with the letter T between. -/
def lettered? (text : List Char) : Option Moment := whole do
  let (date, text) ← looseDate text
  let (hour, minute, second, text) ← looseTime (← expect 'T' text)
  return ({ date, time := ← TimeOfDay.ofNumbers? hour minute second 0 }, text)

/-- An offset from universal time in minutes: the letter Z, or a sign, hours and minutes. -/
def readOffset (text : List Char) : Option (Int × List Char) :=
  let minutes (text : List Char) : Option (Nat × List Char) := do
    let (hours, text) ← digitsBetween 2 2 text
    let (minutes, text) ← digitsBetween 2 2 (← expect ':' text)
    if hours < 24 && minutes < 60 then some (60 * hours + minutes, text) else none
  match text with
  | [] => none
  | symbol :: rest =>
      if symbol = 'Z' || symbol = 'z' then some (0, rest)
      else if symbol = '+' then (minutes rest).map fun (value, rest) => ((value : Int), rest)
      else if symbol = '-' || symbol = Char.ofNat 0x2212 then
        (minutes rest).map fun (value, rest) => (-(value : Int), rest)
      else none

/-- The internet form of a moment. -/
def internet? (text : List Char) : Option Moment := whole do
  let (year, text) ← digitsBetween 4 4 text
  let (month, text) ← digitsBetween 2 2 (← expect '-' text)
  let (day, text) ← digitsBetween 2 2 (← expect '-' text)
  let date ← CalendarDate.ofNumbers? year month day
  let text ← ((expect 'T' text).or (expect 't' text)).or (expect ' ' text)
  let (hour, text) ← digitsBetween 2 2 text
  let (minute, text) ← digitsBetween 2 2 (← expect ':' text)
  let (second, text) ← digitsBetween 2 2 (← expect ':' text)
  let (nanosecond, text) ← fraction text
  let time ← TimeOfDay.ofNumbers? hour minute second nanosecond
  let (offset, text) ← readOffset text
  return ({ date, time, offset := some offset }, text)

/-- The moment of a text that has a date and a time. -/
def moment? (text : List Char) : Option Moment :=
  ((spaced? text).or (lettered? text)).or (internet? text)

/-- The moment of a text, a date alone standing for its midnight. -/
def momentOrDate? (text : List Char) : Option Moment :=
  (moment? text).or ((date? text).map fun date => { date })

end Moment

end Inquiry
