import Inquiry.Moment
import Inquiry.Number.Decimal
import Inquiry.Store.Records

/-!
# Stamps from a clock

The time of a clock is a number of seconds since the first of January 1970.
It is written as a date and a time of day in universal time.  Fresh names are
counted on from a number that is drawn once.
-/

set_option autoImplicit false

namespace Inquiry

namespace CalendarDate

/-- The days of four hundred years. -/
def daysOfEra : Nat := 146097

/-- The days from the first of March of the year zero to the first of January 1970. -/
def daysBeforeEpoch : Nat := 719468

/-- The date of a day counted from the first of January 1970.

The year is counted from March, so that a leap day is the last day of a year; five months in a row
have 153 days. -/
def ofDay (day : Nat) : CalendarDate :=
  let fromMarch := day + daysBeforeEpoch
  let era := fromMarch / daysOfEra
  let inEra := fromMarch % daysOfEra
  let year := (inEra - inEra / 1460 + inEra / 36524 - inEra / 146096) / 365
  let inYear := inEra - (365 * year + year / 4 - year / 100)
  let month := (5 * inYear + 2) / 153
  let calendarMonth := if month < 10 then month + 3 else month - 9
  { year := (era * 400 + year + if calendarMonth ≤ 2 then 1 else 0 : Nat)
    month := calendarMonth
    day := inYear - (153 * month + 2) / 5 + 1 }

end CalendarDate

namespace Stamps

/-- A number with zeros in front up to a width. -/
def padded (width value : Nat) : List Char :=
  let digits := Decimal.digitsOf value
  Decimal.zeros (width - digits.length) ++ digits

/-- The text of the time of a clock. -/
def timeText (seconds : Nat) : String :=
  let date := CalendarDate.ofDay (seconds / 86400)
  let inDay := seconds % 86400
  String.ofList (padded 4 date.year.toNat ++ '-' :: padded 2 date.month ++ '-' ::
    padded 2 date.day ++ ' ' :: padded 2 (inDay / 3600) ++ ':' :: padded 2 (inDay / 60 % 60) ++
    ':' :: padded 2 (inDay % 60))

/-- The least number that does not fit ten digits to the base sixteen. -/
def nameLimit : Nat := 0x10000000000

/-- Ten digits to the base sixteen. -/
def tenDigits (value : Nat) : List Char :=
  let digits := Nat.toDigits 16 (value % nameLimit)
  Decimal.zeros (10 - digits.length) ++ digits

/-- The stamps of a clock and of a number that is drawn. -/
def ofClock (seconds drawn : Nat) : Stamps where
  now := timeText seconds
  nameAt index := String.ofList (tenDigits (drawn + index))

end Stamps

end Inquiry
