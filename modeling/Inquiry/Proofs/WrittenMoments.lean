import Inquiry.Check.Value
import Inquiry.Proofs.DigitOrder
import Mathlib.Data.List.TakeWhile

/-!
# Moments written in full

A date is written in full as four digits for the year and two for the month and the
day, a time as two digits for each of its numbers; the numbers of a date stand between
hyphens and those of a time between colons.  A date may stand alone, and so may a time,
with or without seconds.  Or a time with seconds follows a date, behind a blank or the
letter T; behind a blank the seconds may have a fraction.

These are the forms that fields of dates and times are meant for.  What is accepted is
more, since numbers are read loosely.  But a text that is written in full is read as
the moment that its digits say (`eq_moment_of_moment?`), or not at all, and for one
type of field only, except that a date alone is a moment as well.
-/

set_option autoImplicit false

namespace Inquiry

open Inquiry.Reading

/-! ## Texts and their moments -/

/-- Digits that are written, so many in number. -/
structure Digits (count : Nat) where
  text : List Char
  areDigits : AreDigits count text

/-- The number that digits stand for. -/
def Digits.value {count : Nat} (digits : Digits count) : Nat := digitsValue digits.text

/-- The digits of a date. -/
structure DateDigits where
  year : Digits 4
  month : Digits 2
  day : Digits 2

/-- The digits of an hour and a minute. -/
structure ClockDigits where
  hour : Digits 2
  minute : Digits 2

namespace DateDigits

/-- A date as it is written. -/
def text (digits : DateDigits) : List Char :=
  digits.year.text ++ '-' :: (digits.month.text ++ '-' :: digits.day.text)

/-- The date of digits, whether the calendar has it or not. -/
def date (digits : DateDigits) : CalendarDate :=
  ⟨digits.year.value, digits.month.value, digits.day.value⟩

end DateDigits

/-- An hour and a minute as they are written. -/
def ClockDigits.text (digits : ClockDigits) : List Char :=
  digits.hour.text ++ ':' :: digits.minute.text

/-- A fraction of a second as it is written: behind a point, or not at all. -/
def fractionText : (digits : List Char) → List Char
  | [] => []
  | first :: others => '.' :: first :: others

/-- A date, a time or a moment written in full. -/
inductive WrittenMoment where
  | day (date : DateDigits)
  | minutes (clock : ClockDigits)
  | seconds (clock : ClockDigits) (second : Digits 2)
  | lettered (date : DateDigits) (clock : ClockDigits) (second : Digits 2)
  | spaced (date : DateDigits) (clock : ClockDigits) (second : Digits 2) {places : Nat}
      (fraction : Digits places)

/-- The day of times that stand alone. -/
def someDay : CalendarDate := ⟨1970, 1, 1⟩

namespace WrittenMoment

/-- What is written. -/
def text : WrittenMoment → List Char
  | .day date => date.text
  | .minutes clock => clock.text
  | .seconds clock second => clock.text ++ ':' :: second.text
  | .lettered date clock second => date.text ++ 'T' :: (clock.text ++ ':' :: second.text)
  | .spaced date clock second fraction =>
      date.text ++ ' ' :: (clock.text ++ ':' :: (second.text ++ fractionText fraction.text))

/-- The moment that is written, a date alone standing for its midnight. -/
def moment : WrittenMoment → Moment
  | .day date => { date := date.date }
  | .minutes clock => { date := someDay, time := ⟨clock.hour.value, clock.minute.value, 0, 0⟩ }
  | .seconds clock second =>
      { date := someDay, time := ⟨clock.hour.value, clock.minute.value, second.value, 0⟩ }
  | .lettered date clock second =>
      { date := date.date, time := ⟨clock.hour.value, clock.minute.value, second.value, 0⟩ }
  | .spaced date clock second fraction =>
      { date := date.date,
        time := ⟨clock.hour.value, clock.minute.value, second.value, scaled 9 fraction.text⟩ }

/-- The types of fields that a text written in full is for. -/
def IsOf (type : FieldType) : WrittenMoment → Prop
  | .day _ => type = .date ∨ type = .datetime
  | .minutes _ => type = .time
  | .seconds _ _ => type = .time
  | .lettered _ _ _ => type = .datetime
  | .spaced _ _ _ _ => type = .datetime

end WrittenMoment

/-- The moment that a text denotes in a field of a type; all times that stand alone are of one
day. -/
def FieldType.moment? (type : FieldType) (text : List Char) : Option Moment :=
  match type with
  | .date => (Moment.date? text).map fun date => { date }
  | .datetime => Moment.momentOrDate? text
  | .time => (Moment.time? text).map fun time => { date := someDay, time }
  | _ => none

/-- A text is accepted for a field of dates or times exactly if it denotes a moment there. -/
theorem Check.scalar_string_eq_ok_iff {field : Field}
    (temporal : field.type = .date ∨ field.type = .datetime ∨ field.type = .time) (text : String) :
    Check.scalar field (.string text) = .ok () ↔
      (field.type.moment? text.toList).isSome = true := by
  rcases temporal with isType | isType | isType <;>
    simp [Check.scalar, Json.isNull, isType, Check.expectationOf, Check.meets, Check.textIs,
      FieldType.moment?, Option.isSome_iff_ne_none]

namespace Moment

/-! ## Reading digits -/

/-- The digits at the start of a text end where there cannot be more of them. -/
theorem takeWhile_take_append {most count : Nat} (digits : Digits count) (atMost : count ≤ most)
    {rest : List Char} (ends : count = most ∨ rest.head?.all (!·.isDigit) = true) :
    ((digits.text ++ rest).take most).takeWhile Char.isDigit = digits.text := by
  obtain ⟨text, rfl, areDigits⟩ := digits
  have noMore : (rest.take (most - text.length)).takeWhile Char.isDigit = [] := by
    rcases ends with rfl | ends
    · rw [Nat.sub_self, List.take_zero, List.takeWhile_nil]
    · cases rest with
      | nil => rw [List.take_nil, List.takeWhile_nil]
      | cons symbol rest =>
          have notDigit : symbol.isDigit = false := by simpa using ends
          cases most - text.length with
          | zero => rfl
          | succ more => simp [List.take_succ_cons, notDigit]
  rw [List.take_append, List.take_of_length_le atMost, List.takeWhile_append_of_pos areDigits,
    noMore, List.append_nil]

/-- Digits are read whole if there cannot be more of them. -/
theorem digitsBetween_append {least most count : Nat} (digits : Digits count)
    (atLeast : least ≤ count) (atMost : count ≤ most) {rest : List Char}
    (ends : count = most ∨ rest.head?.all (!·.isDigit) = true) :
    digitsBetween least most (digits.text ++ rest) = some (digits.value, rest) := by
  simp only [digitsBetween, takeWhile_take_append digits atMost ends, digits.areDigits.1]
  rw [if_neg (Nat.not_lt.2 atLeast), List.drop_left' digits.areDigits.1]
  rfl

/-- Digits are not read if more of them are needed. -/
theorem digitsBetween_eq_none {least most count : Nat} (digits : Digits count)
    (few : count < least) (atMost : count ≤ most) {rest : List Char}
    (ends : count = most ∨ rest.head?.all (!·.isDigit) = true) :
    digitsBetween least most (digits.text ++ rest) = none := by
  simp only [digitsBetween, takeWhile_take_append digits atMost ends, digits.areDigits.1]
  exact if_pos few

/-- A digit is no blank, and none of the signs that may stand in front of a year. -/
theorem of_isDigit {symbol : Char} (isDigit : symbol.isDigit = true) :
    Text.isBlank symbol = false ∧ symbol ≠ '-' ∧ symbol ≠ '+' := by
  have checked : ∀ code ≤ 57, 48 ≤ code → Text.isBlank (Char.ofNat code) = false ∧
      Char.ofNat code ≠ '-' ∧ Char.ofNat code ≠ '+' := by
    decide
  have between := toNat_of_isDigit isDigit
  rw [← Char.ofNat_toNat symbol]
  exact checked _ between.2 between.1

/-- No blanks are in front of digits. -/
theorem trimStart_append {count : Nat} (digits : Digits (count + 1)) (rest : List Char) :
    Text.trimStart (digits.text ++ rest) = digits.text ++ rest := by
  obtain ⟨text, length, areDigits⟩ := digits
  obtain ⟨first, others, rfl⟩ := List.exists_cons_of_length_eq_add_one length
  have notBlank := (of_isDigit (areDigits first (List.mem_cons_self ..))).1
  simp [Text.trimStart, Text.trimStartWhere, notBlank]

theorem looseTwo_append (digits : Digits 2) (rest : List Char) :
    looseTwo (digits.text ++ rest) = some (digits.value, rest) := by
  rw [looseTwo, trimStart_append, digitsBetween_append digits (by decide) (by decide) (.inl rfl)]

/-- Digits in front of a character that is none are read as a year, if they are not too many. -/
theorem looseYear_append {count : Nat} (digits : Digits (count + 1)) (atMost : count + 1 ≤ 4)
    {rest : List Char} (ends : count + 1 = 4 ∨ rest.head?.all (!·.isDigit) = true) :
    looseYear (digits.text ++ rest) = some ((digits.value : Int), rest) := by
  have read := digitsBetween_append digits (Nat.le_add_left 1 count) atMost ends
  rw [looseYear, trimStart_append]
  obtain ⟨text, length, areDigits⟩ := digits
  obtain ⟨first, others, rfl⟩ := List.exists_cons_of_length_eq_add_one length
  obtain ⟨-, notMinus, notPlus⟩ := of_isDigit (areDigits first (List.mem_cons_self ..))
  split
  case h_1 same => exact absurd (List.cons.inj same).1 notMinus
  case h_2 same => exact absurd (List.cons.inj same).1 notPlus
  case h_3 => rw [read]; rfl

/-- As many digits as are expected are read. -/
theorem digitsExactly_append {count : Nat} (digits : Digits count) (rest : List Char) :
    digitsBetween count count (digits.text ++ rest) = some (digits.value, rest) :=
  digitsBetween_append digits (Nat.le_refl _) (Nat.le_refl _) (.inl rfl)

/-- Reading goes on behind the digits that are expected. -/
theorem bind_digitsExactly {Result : Type} {count : Nat} (digits : Digits count)
    (rest : List Char) (next : Nat × List Char → Option Result) :
    (digitsBetween count count (digits.text ++ rest)).bind next = next (digits.value, rest) := by
  rw [digitsExactly_append, Option.bind_some]

@[simp] theorem expect_nil (symbol : Char) : expect symbol [] = none := rfl

@[simp] theorem expect_self (symbol : Char) (rest : List Char) :
    expect symbol (symbol :: rest) = some rest := if_pos rfl

/-- Reading goes on behind a character that is expected. -/
theorem bind_expect_self {Result : Type} (symbol : Char) (rest : List Char)
    (next : List Char → Option Result) :
    (expect symbol (symbol :: rest)).bind next = next rest := by
  rw [expect_self, Option.bind_some]

theorem expect_of_ne {first symbol : Char} (different : first ≠ symbol) (rest : List Char) :
    expect symbol (first :: rest) = none := if_neg different

/-! ## Reading dates and times -/

/-- The date of digits, if the calendar has it. -/
def dateOf? (date : DateDigits) : Option CalendarDate :=
  CalendarDate.ofNumbers? date.year.value date.month.value date.day.value

/-- The time of digits, if a day has it. -/
def timeOf? (clock : ClockDigits) (second nanosecond : Nat) : Option TimeOfDay :=
  TimeOfDay.ofNumbers? clock.hour.value clock.minute.value second nanosecond

theorem eq_date_of_dateOf? {digits : DateDigits} {date : CalendarDate}
    (isDate : dateOf? digits = some date) : date = digits.date := by
  rw [dateOf?, CalendarDate.ofNumbers?] at isDate
  split at isDate
  · exact (Option.some.inj isDate).symm
  · cases isDate

theorem eq_time_of_timeOf? {clock : ClockDigits} {second nanosecond : Nat} {time : TimeOfDay}
    (isTime : timeOf? clock second nanosecond = some time) :
    time = ⟨clock.hour.value, clock.minute.value, second, nanosecond⟩ := by
  rw [timeOf?, TimeOfDay.ofNumbers?] at isTime
  split at isTime
  · exact (Option.some.inj isTime).symm
  · cases isTime

theorem looseDate_append (date : DateDigits) (rest : List Char) :
    looseDate (date.text ++ rest) = (dateOf? date).map fun read => (read, rest) := by
  rw [DateDigits.text]
  simp only [looseDate, List.append_assoc, List.cons_append, looseTwo_append, expect_self,
    looseYear_append date.year (by decide) (.inl rfl), Option.bind_eq_bind, Option.bind_some,
    Option.pure_def, dateOf?]
  cases CalendarDate.ofNumbers? _ _ _ <;> rfl

/-- A date is read to the end of its text. -/
theorem looseDate_text (date : DateDigits) :
    looseDate date.text = (dateOf? date).map fun read => (read, []) := by
  rw [← looseDate_append, List.append_nil]

theorem looseHourMinute_append (clock : ClockDigits) (rest : List Char) :
    looseHourMinute (clock.text ++ rest) = some (clock.hour.value, clock.minute.value, rest) := by
  rw [ClockDigits.text]
  simp only [looseHourMinute, List.append_assoc, List.cons_append, looseTwo_append, expect_self,
    Option.bind_eq_bind, Option.bind_some, Option.pure_def]

theorem looseTime_append (clock : ClockDigits) (second : Digits 2) (rest : List Char) :
    looseTime (clock.text ++ ':' :: (second.text ++ rest)) =
      some (clock.hour.value, clock.minute.value, second.value, rest) := by
  simp only [looseTime, looseHourMinute_append, looseTwo_append, expect_self, Option.bind_eq_bind,
    Option.bind_some, Option.pure_def]

/-- A time is read to the end of its text. -/
theorem looseTime_text (clock : ClockDigits) (second : Digits 2) :
    looseTime (clock.text ++ ':' :: second.text) =
      some (clock.hour.value, clock.minute.value, second.value, []) := by
  rw [← looseTime_append, List.append_nil]

theorem fraction_fractionText {digits : List Char}
    (areDigits : ∀ symbol ∈ digits, symbol.isDigit = true) :
    fraction (fractionText digits) = some (scaled 9 digits, []) := by
  cases digits with
  | nil => simp [fractionText, fraction, scaled_nil]
  | cons first others =>
      have all : (first :: others).takeWhile Char.isDigit = first :: others :=
        List.takeWhile_eq_self_iff.2 areDigits
      have nothing : (first :: others).dropWhile Char.isDigit = [] :=
        List.dropWhile_eq_nil_iff.2 areDigits
      simp only [fractionText, fraction, all, nothing]
      rfl

/-! ## Reading the wrong form -/

/-- A time does not begin as a date does. -/
theorem looseDate_clock (clock : ClockDigits) (rest : List Char) :
    looseDate (clock.text ++ rest) = none := by
  have read := looseYear_append clock.hour (by decide) (.inr rfl :
    2 = 4 ∨ (':' :: (clock.minute.text ++ rest)).head?.all (!·.isDigit) = true)
  rw [ClockDigits.text, List.append_assoc, List.cons_append]
  simp only [looseDate, read, expect_of_ne (show ':' ≠ '-' by decide), Option.bind_eq_bind,
    Option.bind_some, Option.bind_none]

/-- A date does not begin as a time does: its year has more than two digits. -/
theorem looseHourMinute_date (date : DateDigits) (rest : List Char) :
    looseHourMinute (date.text ++ rest) = none := by
  obtain ⟨⟨year, length, areDigits⟩, month, day⟩ := date
  match year, length with
  | [first, second, third, fourth], _ =>
    have upTo : AreDigits 2 [first, second] :=
      ⟨rfl, fun symbol member => areDigits symbol (List.mem_append_left [third, fourth] member)⟩
    have noColon : third ≠ ':' := by
      rintro rfl
      exact absurd (areDigits ':' (by simp)) (by decide)
    have read := looseTwo_append ⟨_, upTo⟩ (third :: fourth :: '-' ::
      (month.text ++ '-' :: day.text ++ rest))
    simp only [List.cons_append, List.nil_append, List.append_assoc] at read
    rw [DateDigits.text]
    simp only [looseHourMinute, List.cons_append, List.nil_append, List.append_assoc, read,
      expect_of_ne noColon, Option.bind_eq_bind, Option.bind_some, Option.bind_none]

/-- A time alone has no internet form. -/
theorem internet?_clock (clock : ClockDigits) (rest : List Char) :
    internet? (clock.text ++ rest) = none := by
  have few := digitsBetween_eq_none clock.hour (show 2 < 4 by decide) (show 2 ≤ 4 by decide)
    (.inr rfl : 2 = 4 ∨ (':' :: (clock.minute.text ++ rest)).head?.all (!·.isDigit) = true)
  rw [ClockDigits.text, List.append_assoc, List.cons_append, internet?, few]
  rfl

/-- A date alone has no internet form. -/
theorem internet?_date (date : DateDigits) : internet? date.text = none := by
  have ofDay : date.day.text = date.day.text ++ [] := (List.append_nil _).symm
  rw [DateDigits.text, ofDay]
  -- The lemmas are used from the outside: what is read later is not looked at before.
  simp only [internet?, ↓Option.bind_eq_bind, ↓bind_digitsExactly, ↓bind_expect_self]
  cases CalendarDate.ofNumbers? _ _ _ <;> rfl

/-- A date and a time have no internet form without an offset. -/
theorem internet?_dated (date : DateDigits) (clock : ClockDigits) (second : Digits 2)
    {digits : List Char} (areDigits : ∀ symbol ∈ digits, symbol.isDigit = true) (between : Char) :
    internet? (date.text ++ between :: (clock.text ++ ':' :: (second.text ++
      fractionText digits))) = none := by
  have behind (symbol : Char) (rest : List Char) :
      expect symbol (between :: rest) = some rest ∨ expect symbol (between :: rest) = none := by
    by_cases same : between = symbol
    · exact .inl (if_pos same)
    · exact .inr (if_neg same)
  have found (rest : List Char) :
      ((expect 'T' (between :: rest)).or (expect 't' (between :: rest))).or
          (expect ' ' (between :: rest)) = some rest ∨
        ((expect 'T' (between :: rest)).or (expect 't' (between :: rest))).or
          (expect ' ' (between :: rest)) = none := by
    rcases behind 'T' rest with capital | capital <;> rcases behind 't' rest with small | small <;>
      rcases behind ' ' rest with blank | blank <;> simp [capital, small, blank]
  simp only [DateDigits.text, ClockDigits.text, List.append_assoc, List.cons_append]
  simp only [internet?, ↓Option.bind_eq_bind, ↓bind_digitsExactly, ↓bind_expect_self]
  cases CalendarDate.ofNumbers? _ _ _ with
  | none => rfl
  | some read =>
      rw [Option.bind_some]
      rcases found (clock.hour.text ++ ':' :: (clock.minute.text ++ ':' :: (second.text ++
        fractionText digits))) with goesOn | stops
      · rw [goesOn]
        simp only [↓Option.bind_some, ↓bind_digitsExactly, ↓bind_expect_self,
          fraction_fractionText areDigits, readOffset, Option.bind_none]
        cases TimeOfDay.ofNumbers? _ _ _ _ <;> rfl
      · rw [stops]
        rfl

/-! ## Reading what is written in full -/

theorem date?_day (date : DateDigits) : date? date.text = dateOf? date := by
  rw [date?, looseDate_text]
  cases dateOf? date <;> rfl

/-- A time is not read as a date. -/
theorem date?_clock (clock : ClockDigits) (rest : List Char) :
    date? (clock.text ++ rest) = none := by
  rw [date?, looseDate_clock]
  rfl

/-- A date alone is not read where something comes behind it. -/
theorem date?_append_cons (date : DateDigits) (symbol : Char) (rest : List Char) :
    date? (date.text ++ symbol :: rest) = none := by
  rw [date?, looseDate_append]
  cases dateOf? date <;> rfl

theorem time?_minutes (clock : ClockDigits) : time? clock.text = timeOf? clock 0 0 := by
  have read := looseHourMinute_append clock []
  rw [List.append_nil] at read
  simp only [time?, looseTime, read, expect_nil, Option.bind_eq_bind, Option.bind_some,
    Option.bind_none, whole, Option.none_or, timeOf?]
  cases TimeOfDay.ofNumbers? _ _ _ _ <;> rfl

theorem time?_seconds (clock : ClockDigits) (second : Digits 2) :
    time? (clock.text ++ ':' :: second.text) = timeOf? clock second.value 0 := by
  simp only [time?, looseTime_text, looseHourMinute_append, Option.bind_eq_bind, Option.bind_some,
    timeOf?]
  cases TimeOfDay.ofNumbers? clock.hour.value clock.minute.value second.value 0 with
  | some time => rfl
  | none => cases TimeOfDay.ofNumbers? _ _ _ _ <;> rfl

/-- A date is not read as a time. -/
theorem time?_date (date : DateDigits) (rest : List Char) : time? (date.text ++ rest) = none := by
  simp only [time?, looseTime, looseHourMinute_date, Option.bind_eq_bind, Option.bind_none, whole,
    Option.none_or]

theorem momentOrDate?_day (date : DateDigits) :
    momentOrDate? date.text = (dateOf? date).map fun date => { date } := by
  have noSpaced : spaced? date.text = none := by
    rw [spaced?, looseDate_text]
    cases dateOf? date <;> rfl
  have noLettered : lettered? date.text = none := by
    rw [lettered?, looseDate_text]
    cases dateOf? date <;> rfl
  rw [momentOrDate?, moment?, noSpaced, noLettered, internet?_date, date?_day]
  rfl

/-- A time alone is not read as a moment. -/
theorem momentOrDate?_clock (clock : ClockDigits) (rest : List Char) :
    momentOrDate? (clock.text ++ rest) = none := by
  simp only [momentOrDate?, moment?, spaced?, lettered?, date?, looseDate_clock, internet?_clock,
    Option.bind_eq_bind, Option.bind_none, whole, Option.none_or, Option.map_none]

/-- The letter T is not read as a number. -/
theorem looseTime_letter (rest : List Char) : looseTime (Text.trimStart ('T' :: rest)) = none := by
  have notBlank : Text.trimStart ('T' :: rest) = 'T' :: rest := rfl
  have noDigits : digitsBetween 1 2 ('T' :: rest) = none := rfl
  simp only [looseTime, looseHourMinute, looseTwo, notBlank, noDigits, Option.bind_eq_bind,
    Option.bind_none]

theorem momentOrDate?_lettered (date : DateDigits) (clock : ClockDigits) (second : Digits 2) :
    momentOrDate? (date.text ++ 'T' :: (clock.text ++ ':' :: second.text)) =
      (dateOf? date).bind fun date => (timeOf? clock second.value 0).map fun time =>
        { date, time } := by
  have noSpaced : spaced? (date.text ++ 'T' :: (clock.text ++ ':' :: second.text)) = none := by
    rw [spaced?, looseDate_append]
    cases dateOf? date with
    | none => rfl
    | some read => simp only [Option.map_some, Option.bind_eq_bind, Option.bind_some,
        looseTime_letter, Option.bind_none, whole]
  have noInternet := internet?_dated date clock second (List.forall_mem_nil _) 'T'
  rw [fractionText, List.append_nil] at noInternet
  rw [momentOrDate?, moment?, noSpaced, noInternet, date?_append_cons, lettered?, looseDate_append,
    timeOf?]
  cases dateOf? date with
  | none => rfl
  | some date =>
      simp only [Option.map_some, Option.bind_eq_bind, Option.bind_some, expect_self,
        looseTime_text]
      cases TimeOfDay.ofNumbers? _ _ _ _ <;> rfl

theorem momentOrDate?_spaced (date : DateDigits) (clock : ClockDigits) (second : Digits 2)
    {digits : List Char} (areDigits : ∀ symbol ∈ digits, symbol.isDigit = true) :
    momentOrDate? (date.text ++ ' ' :: (clock.text ++ ':' :: (second.text ++
        fractionText digits))) =
      (dateOf? date).bind fun date => (timeOf? clock second.value (scaled 9 digits)).map fun time =>
        { date, time } := by
  have noInternet := internet?_dated date clock second areDigits ' '
  have noLettered : lettered? (date.text ++ ' ' :: (clock.text ++ ':' :: (second.text ++
      fractionText digits))) = none := by
    rw [lettered?, looseDate_append]
    cases dateOf? date with
    | none => rfl
    | some read => simp only [Option.map_some, Option.bind_eq_bind, Option.bind_some,
        expect_of_ne (show ' ' ≠ 'T' by decide), Option.bind_none, whole]
  have behindBlank (rest : List Char) :
      Text.trimStart (' ' :: (clock.text ++ rest)) = clock.text ++ rest := by
    have noBlank := trimStart_append clock.hour (':' :: (clock.minute.text ++ rest))
    rw [ClockDigits.text, List.append_assoc, List.cons_append]
    exact noBlank
  rw [momentOrDate?, moment?, noLettered, noInternet, date?_append_cons, spaced?, looseDate_append,
    timeOf?]
  cases dateOf? date with
  | none => rfl
  | some date =>
      simp only [Option.map_some, Option.bind_eq_bind, Option.bind_some, behindBlank,
        looseTime_append, fraction_fractionText areDigits]
      cases TimeOfDay.ofNumbers? _ _ _ _ <;> rfl

end Moment

/-! ## Moments of written texts -/

namespace WrittenMoment

theorem eq_moment_of_date {written : WrittenMoment} {date : CalendarDate}
    (isDate : Moment.date? written.text = some date) :
    ({ date } : Moment) = written.moment ∧ written.IsOf .date := by
  cases written with
  | day digits =>
      rw [text, Moment.date?_day] at isDate
      rw [Moment.eq_date_of_dateOf? isDate]
      exact ⟨rfl, .inl rfl⟩
  | minutes clock =>
      have none := Moment.date?_clock clock []
      rw [List.append_nil] at none
      rw [text, none] at isDate
      cases isDate
  | seconds clock second =>
      rw [text, Moment.date?_clock] at isDate
      cases isDate
  | lettered digits clock second =>
      rw [text, Moment.date?_append_cons] at isDate
      cases isDate
  | spaced digits clock second fraction =>
      rw [text, Moment.date?_append_cons] at isDate
      cases isDate

theorem eq_moment_of_time {written : WrittenMoment} {time : TimeOfDay}
    (isTime : Moment.time? written.text = some time) :
    ({ date := someDay, time } : Moment) = written.moment ∧ written.IsOf .time := by
  cases written with
  | day digits =>
      have none := Moment.time?_date digits []
      rw [List.append_nil] at none
      rw [text, none] at isTime
      cases isTime
  | minutes clock =>
      rw [text, Moment.time?_minutes] at isTime
      rw [Moment.eq_time_of_timeOf? isTime]
      exact ⟨rfl, rfl⟩
  | seconds clock second =>
      rw [text, Moment.time?_seconds] at isTime
      rw [Moment.eq_time_of_timeOf? isTime]
      exact ⟨rfl, rfl⟩
  | lettered digits clock second =>
      rw [text, Moment.time?_date] at isTime
      cases isTime
  | spaced digits clock second fraction =>
      rw [text, Moment.time?_date] at isTime
      cases isTime

theorem eq_moment_of_momentOrDate {written : WrittenMoment} {moment : Moment}
    (isMoment : Moment.momentOrDate? written.text = some moment) :
    moment = written.moment ∧ written.IsOf .datetime := by
  cases written with
  | day digits =>
      rw [text, Moment.momentOrDate?_day] at isMoment
      obtain ⟨date, isDate, rfl⟩ := Option.map_eq_some_iff.1 isMoment
      rw [Moment.eq_date_of_dateOf? isDate]
      exact ⟨rfl, .inr rfl⟩
  | minutes clock =>
      have none := Moment.momentOrDate?_clock clock []
      rw [List.append_nil] at none
      rw [text, none] at isMoment
      cases isMoment
  | seconds clock second =>
      rw [text, Moment.momentOrDate?_clock] at isMoment
      cases isMoment
  | lettered digits clock second =>
      rw [text, Moment.momentOrDate?_lettered] at isMoment
      obtain ⟨date, isDate, isMoment⟩ := Option.bind_eq_some_iff.1 isMoment
      obtain ⟨time, isTime, rfl⟩ := Option.map_eq_some_iff.1 isMoment
      rw [Moment.eq_date_of_dateOf? isDate, Moment.eq_time_of_timeOf? isTime]
      exact ⟨rfl, rfl⟩
  | spaced digits clock second fraction =>
      rw [text, Moment.momentOrDate?_spaced _ _ _ fraction.areDigits.2] at isMoment
      obtain ⟨date, isDate, isMoment⟩ := Option.bind_eq_some_iff.1 isMoment
      obtain ⟨time, isTime, rfl⟩ := Option.map_eq_some_iff.1 isMoment
      rw [Moment.eq_date_of_dateOf? isDate, Moment.eq_time_of_timeOf? isTime]
      exact ⟨rfl, rfl⟩

/-- **A text written in full denotes the moment that its digits say, or none**, and it denotes one
only in the fields it is for. -/
theorem eq_moment_of_moment? {type : FieldType} {written : WrittenMoment} {moment : Moment}
    (denoted : type.moment? written.text = some moment) :
    moment = written.moment ∧ written.IsOf type := by
  unfold FieldType.moment? at denoted
  split at denoted
  case h_1 =>
    obtain ⟨date, isDate, rfl⟩ := Option.map_eq_some_iff.1 denoted
    exact eq_moment_of_date isDate
  case h_2 => exact eq_moment_of_momentOrDate denoted
  case h_3 =>
    obtain ⟨time, isTime, rfl⟩ := Option.map_eq_some_iff.1 denoted
    exact eq_moment_of_time isTime
  case h_4 => cases denoted

end WrittenMoment

end Inquiry
