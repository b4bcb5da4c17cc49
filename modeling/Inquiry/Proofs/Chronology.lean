import Inquiry.Proofs.WrittenMoments

/-!
# The order of moments and the order of their texts

Columns of dates and times hold texts, and texts are compared by their characters.  So
a range of dates, or rows in order of time, are right only if the texts are in the order
of the moments that they denote.

They are where all of them are written in full and in one way (`compare_text_of_writing`).
Where they are written in full but in several ways, an earlier moment has the lesser text
still, with one exception: of two moments on the same day, the one with the letter T
between date and time has the greater text, whichever is earlier
(`compare_text_of_earlier`).  Moments that are the same may have different texts then.

What is not written in full need not be in order at all.
-/

set_option autoImplicit false

namespace Inquiry

open Inquiry.Reading

/-! ## The order of moments -/

/-- Which of two dates comes first. -/
def CalendarDate.order (first second : CalendarDate) : Ordering :=
  (compare first.year second.year).then
    ((compare first.month second.month).then (compare first.day second.day))

/-- Which of two times of day comes first. -/
def TimeOfDay.order (first second : TimeOfDay) : Ordering :=
  (compare first.hour second.hour).then
    ((compare first.minute second.minute).then
      ((compare first.second second.second).then (compare first.nanosecond second.nanosecond)))

/-- Which of two moments comes first, by their dates and then by their times. -/
def Moment.order (first second : Moment) : Ordering :=
  (first.date.order second.date).then (first.time.order second.time)

theorem CalendarDate.order_eq_eq_iff {first second : CalendarDate} :
    first.order second = .eq ↔ first = second := by
  simp only [order, Ordering.then_eq_eq, Std.compare_eq_iff_eq]
  cases first
  cases second
  simp

theorem CalendarDate.order_self (date : CalendarDate) : date.order date = .eq :=
  order_eq_eq_iff.2 rfl

/-- No time comes before midnight. -/
theorem TimeOfDay.order_midnight_ne_lt (time : TimeOfDay) : time.order ⟨0, 0, 0, 0⟩ ≠ .lt := by
  simp [order, Ordering.then_eq_lt, Nat.compare_eq_lt]

/-- Behind what is the same, texts may decide in the place of numbers. -/
theorem then_eq_lt_of_imp {first second second' : Ordering} (isLess : first.then second = .lt)
    (follows : second = .lt → second' = .lt) : first.then second' = .lt := by
  rw [Ordering.then_eq_lt] at isLess ⊢
  exact isLess.imp_right fun ⟨same, later⟩ => ⟨same, follows later⟩

/-! ## Texts of digits -/

theorem Digits.compare_text {count : Nat} (first second : Digits count) :
    compare first.text second.text = compare first.value second.value := by
  have sameLength := first.areDigits.1.trans second.areDigits.1.symm
  rw [compare_scaled first.areDigits.2 second.areDigits.2 sameLength
      (Nat.le_of_eq first.areDigits.1), scaled_length first.areDigits.1,
    scaled_length second.areDigits.1]
  rfl

/-- Digits decide before what comes behind them. -/
theorem Digits.compare_append {count : Nat} (first second : Digits count) (rest rest' : List Char) :
    compare (first.text ++ rest) (second.text ++ rest') =
      (compare first.value second.value).then (compare rest rest') := by
  rw [Inquiry.compare_append (first.areDigits.1.trans second.areDigits.1.symm),
    first.compare_text second]

theorem compare_natCast (first second : Nat) :
    compare (first : Int) (second : Int) = compare first second := by
  have ofInts : compare (first : Int) (second : Int) =
      compareOfLessAndEq (first : Int) (second : Int) := rfl
  have ofNats : compare first second = compareOfLessAndEq first second := rfl
  rw [ofInts, ofNats]
  simp only [compareOfLessAndEq, Int.ofNat_lt, Int.natCast_inj]

/-- Dates decide before what comes behind them. -/
theorem DateDigits.compare_append (first second : DateDigits) (rest rest' : List Char) :
    compare (first.text ++ rest) (second.text ++ rest') =
      (first.date.order second.date).then (compare rest rest') := by
  simp only [text, List.append_assoc, List.cons_append, Digits.compare_append, compare_cons_self,
    CalendarDate.order, date, compare_natCast, Ordering.then_assoc]

/-- Hours and minutes decide before what comes behind them. -/
theorem ClockDigits.compare_append (first second : ClockDigits) (rest rest' : List Char) :
    compare (first.text ++ rest) (second.text ++ rest') =
      (compare first.hour.value second.hour.value).then
        ((compare first.minute.value second.minute.value).then (compare rest rest')) := by
  simp only [text, List.append_assoc, List.cons_append, Digits.compare_append, compare_cons_self]

/-- Hours, minutes and seconds decide before what comes behind them. -/
theorem ClockDigits.compare_seconds (clock clock' : ClockDigits) (second second' : Digits 2)
    (rest rest' : List Char) :
    compare (clock.text ++ ':' :: (second.text ++ rest))
        (clock'.text ++ ':' :: (second'.text ++ rest')) =
      (compare clock.hour.value clock'.hour.value).then
        ((compare clock.minute.value clock'.minute.value).then
          ((compare second.value second'.value).then (compare rest rest'))) := by
  rw [clock.compare_append, compare_cons_self, second.compare_append]

/-- Nothing more than hours, minutes and seconds decides where nothing comes behind them. -/
theorem ClockDigits.compare_seconds_text (clock clock' : ClockDigits) (second second' : Digits 2) :
    compare (clock.text ++ ':' :: second.text) (clock'.text ++ ':' :: second'.text) =
      TimeOfDay.order ⟨clock.hour.value, clock.minute.value, second.value, 0⟩
        ⟨clock'.hour.value, clock'.minute.value, second'.value, 0⟩ := by
  have texts := clock.compare_seconds clock' second second' [] []
  simp only [List.append_nil] at texts
  exact texts

/-- A lesser fraction has the lesser text. -/
theorem compare_fractionText_of_lt {digits digits' : List Char}
    (areDigits : ∀ symbol ∈ digits, symbol.isDigit = true)
    (areDigits' : ∀ symbol ∈ digits', symbol.isDigit = true)
    (isLess : scaled 9 digits < scaled 9 digits') :
    compare (fractionText digits) (fractionText digits') = .lt := by
  cases digits' with
  | nil =>
      rw [scaled_nil] at isLess
      exact absurd isLess (Nat.not_lt_zero _)
  | cons first' others' =>
      cases digits with
      | nil => rfl
      | cons first others =>
          rw [fractionText, fractionText, compare_cons_self]
          exact compare_of_scaled_lt areDigits areDigits' isLess

/-- Fractions of equally many digits, of which all count, are compared as their texts are. -/
theorem compare_fractionText {places : Nat} (first second : Digits places) (atMost : places ≤ 9) :
    compare (fractionText first.text) (fractionText second.text) =
      compare (scaled 9 first.text) (scaled 9 second.text) := by
  have sameLength := first.areDigits.1.trans second.areDigits.1.symm
  rw [← compare_scaled first.areDigits.2 second.areDigits.2 sameLength
    (first.areDigits.1.symm ▸ atMost)]
  cases ofFirst : first.text with
  | nil =>
      rw [ofFirst] at sameLength
      rw [List.eq_nil_of_length_eq_zero sameLength.symm]
      rfl
  | cons digit others =>
      rw [ofFirst] at sameLength
      obtain ⟨digit', others', ofSecond⟩ := List.exists_cons_of_length_eq_add_one sameLength.symm
      rw [ofSecond, fractionText, fractionText, compare_cons_self]

/-! ## Texts of moments -/

/-- A way of writing a moment in full; behind a blank with so many places behind the point. -/
inductive Writing where
  | day
  | minutes
  | seconds
  | lettered
  | spaced (places : Nat)
deriving DecidableEq

/-- The places behind the point. -/
def Writing.places : Writing → Nat
  | .spaced places => places
  | _ => 0

/-- The way in which a moment is written. -/
def WrittenMoment.writing : WrittenMoment → Writing
  | .day _ => .day
  | .minutes _ => .minutes
  | .seconds _ _ => .seconds
  | .lettered _ _ _ => .lettered
  | @WrittenMoment.spaced _ _ _ places _ => .spaced places

namespace WrittenMoment

/-- **Of moments that are written in one way the texts are in the order of the moments**, if all
places behind the point count. -/
theorem compare_text_of_writing {written other : WrittenMoment}
    (same : written.writing = other.writing) (atMost : written.writing.places ≤ 9) :
    compare written.text other.text = written.moment.order other.moment := by
  cases written with
  | day date =>
      cases other with
      | day date' =>
          have texts := date.compare_append date' [] []
          simp only [List.append_nil] at texts
          rw [text, text, texts]
          rfl
      | _ => cases same
  | minutes clock =>
      cases other with
      | minutes clock' =>
          have texts := clock.compare_append clock' [] []
          simp only [List.append_nil] at texts
          rw [text, text, texts, Moment.order, moment, moment, CalendarDate.order_self]
          rfl
      | _ => cases same
  | seconds clock second =>
      cases other with
      | seconds clock' second' =>
          rw [text, text, clock.compare_seconds_text, Moment.order, moment, moment,
            CalendarDate.order_self]
          rfl
      | _ => cases same
  | lettered date clock second =>
      cases other with
      | lettered date' clock' second' =>
          rw [text, text, date.compare_append, compare_cons_self, clock.compare_seconds_text]
          rfl
      | _ => cases same
  | spaced date clock second fraction =>
      cases other with
      | spaced date' clock' second' fraction' =>
          obtain rfl := Writing.spaced.inj same
          rw [text, text, date.compare_append, compare_cons_self, clock.compare_seconds,
            compare_fractionText fraction fraction' atMost]
          rfl
      | _ => cases same

/-- Where the dates are the same the texts behind them decide. -/
theorem compare_of_dates {date date' : DateDigits} {time time' : TimeOfDay} {tail tail' : List Char}
    (earlier : Moment.order { date := date.date, time } { date := date'.date, time := time' } = .lt)
    (follows : time.order time' = .lt → compare tail tail' = .lt) :
    compare (date.text ++ tail) (date'.text ++ tail') = .lt := by
  rw [date.compare_append]
  exact then_eq_lt_of_imp earlier follows

/-- Where hours, minutes and seconds are the same the fractions decide. -/
theorem compare_of_times {clock clock' : ClockDigits} {second second' : Digits 2}
    {nanosecond nanosecond' : Nat} {rest rest' : List Char}
    (earlier : TimeOfDay.order ⟨clock.hour.value, clock.minute.value, second.value, nanosecond⟩
      ⟨clock'.hour.value, clock'.minute.value, second'.value, nanosecond'⟩ = .lt)
    (follows : nanosecond < nanosecond' → compare rest rest' = .lt) :
    compare (clock.text ++ ':' :: (second.text ++ rest))
      (clock'.text ++ ':' :: (second'.text ++ rest')) = .lt := by
  rw [clock.compare_seconds]
  refine then_eq_lt_of_imp earlier fun ofMinutes => then_eq_lt_of_imp ofMinutes fun ofSeconds =>
    then_eq_lt_of_imp ofSeconds fun ofFraction => follows (Nat.compare_eq_lt.1 ofFraction)

/-- Two moments are written on the same day, the first with a letter and the second with a blank. -/
def Turned (written other : WrittenMoment) : Prop :=
  written.writing = .lettered ∧ (∃ places, other.writing = .spaced places) ∧
    written.moment.date = other.moment.date

theorem compare_text_of_turned {written other : WrittenMoment} (turned : Turned written other) :
    compare written.text other.text = .gt := by
  obtain ⟨isLettered, ⟨places, isSpaced⟩, sameDay⟩ := turned
  cases written with
  | lettered date clock second =>
      cases other with
      | spaced date' clock' second' fraction =>
          have sameDate : date.date = date'.date := sameDay
          rw [text, text, date.compare_append, CalendarDate.order_eq_eq_iff.2 sameDate,
            Ordering.eq_then, compare_cons]
          rfl
      | _ => cases isSpaced
  | _ => cases isLettered

/-- A date alone comes before all that is written on its day. -/
theorem compare_day_of_earlier {date date' : DateDigits} {time : TimeOfDay} {symbol : Char}
    {rest : List Char}
    (earlier : Moment.order { date := date.date } { date := date'.date, time } = .lt) :
    compare date.text (date'.text ++ symbol :: rest) = .lt := by
  have texts : compare (date.text ++ []) (date'.text ++ symbol :: rest) = .lt :=
    compare_of_dates earlier fun _ => rfl
  rwa [List.append_nil] at texts

/-- Nothing that is written comes before a date alone on its day. -/
theorem compare_of_earlier_day {date date' : DateDigits} {time : TimeOfDay} {tail : List Char}
    (earlier : Moment.order { date := date.date, time } { date := date'.date } = .lt) :
    compare (date.text ++ tail) date'.text = .lt := by
  have texts : compare (date.text ++ tail) (date'.text ++ []) = .lt :=
    compare_of_dates earlier fun ofTimes => absurd ofTimes time.order_midnight_ne_lt
  rwa [List.append_nil] at texts

/-- Behind a minute that is written alone seconds come later, if they do not come at once. -/
theorem compare_minutes_of_earlier {clock clock' : ClockDigits} {second : Digits 2}
    (earlier : (minutes clock).moment.order (seconds clock' second).moment = .lt) :
    compare (minutes clock).text (seconds clock' second).text = .lt := by
  have texts := clock.compare_append clock' [] (':' :: second.text)
  rw [List.append_nil] at texts
  rw [Moment.order, moment, moment, CalendarDate.order_self, Ordering.eq_then] at earlier
  rw [text, text, texts]
  exact then_eq_lt_of_imp earlier fun ofMinutes => then_eq_lt_of_imp ofMinutes fun _ => rfl

/-- No second of a minute comes before the minute. -/
theorem compare_of_earlier_minutes {clock clock' : ClockDigits} {second : Digits 2}
    (earlier : (seconds clock second).moment.order (minutes clock').moment = .lt) :
    compare (seconds clock second).text (minutes clock').text = .lt := by
  have texts := clock.compare_append clock' (':' :: second.text) []
  rw [List.append_nil] at texts
  rw [Moment.order, moment, moment, CalendarDate.order_self, Ordering.eq_then] at earlier
  rw [text, text, texts]
  apply then_eq_lt_of_imp earlier
  intro ofMinutes
  apply then_eq_lt_of_imp ofMinutes
  intro ofSeconds
  simp [Nat.compare_eq_lt] at ofSeconds

/-- Between a letter and a blank the day decides. -/
theorem compare_lettered_of_earlier {date date' : DateDigits} {clock clock' : ClockDigits}
    {second second' : Digits 2} {places : Nat} {fraction : Digits places}
    (earlier : (lettered date clock second).moment.order
      (spaced date' clock' second' fraction).moment = .lt)
    (notTurned : ¬ Turned (lettered date clock second) (spaced date' clock' second' fraction)) :
    compare (lettered date clock second).text (spaced date' clock' second' fraction).text =
      .lt := by
  rw [Moment.order, Ordering.then_eq_lt] at earlier
  rcases earlier with earlierDay | ⟨sameDay, -⟩
  · have ofDates : date.date.order date'.date = .lt := earlierDay
    rw [text, text, date.compare_append, ofDates, Ordering.lt_then]
  · exact absurd ⟨rfl, ⟨places, rfl⟩, CalendarDate.order_eq_eq_iff.1 sameDay⟩ notTurned

/-- Between two fractions of a second behind blanks the lesser one has the lesser text. -/
theorem compare_spaced_of_earlier {date date' : DateDigits} {clock clock' : ClockDigits}
    {second second' : Digits 2} {places places' : Nat} {fraction : Digits places}
    {fraction' : Digits places'}
    (earlier : (spaced date clock second fraction).moment.order
      (spaced date' clock' second' fraction').moment = .lt) :
    compare (spaced date clock second fraction).text (spaced date' clock' second' fraction').text =
      .lt := by
  apply compare_of_dates earlier
  intro ofTimes
  rw [compare_cons_self]
  exact compare_of_times ofTimes fun isLess =>
    compare_fractionText_of_lt fraction.areDigits.2 fraction'.areDigits.2 isLess

theorem compare_text_of_not_turned {type : FieldType} {written other : WrittenMoment}
    (ofType : written.IsOf type) (ofType' : other.IsOf type)
    (earlier : written.moment.order other.moment = .lt) (notTurned : ¬ Turned written other) :
    compare written.text other.text = .lt := by
  cases written with
  | day date =>
      cases other with
      | day => exact Eq.trans (compare_text_of_writing rfl (Nat.zero_le 9)) earlier
      | lettered | spaced => exact compare_day_of_earlier earlier
      | minutes | seconds => rcases ofType with rfl | rfl <;> cases ofType'
  | minutes clock =>
      cases other with
      | minutes => exact Eq.trans (compare_text_of_writing rfl (Nat.zero_le 9)) earlier
      | seconds => exact compare_minutes_of_earlier earlier
      | day => rcases ofType' with rfl | rfl <;> cases ofType
      | lettered | spaced => cases ofType.symm.trans ofType'
  | seconds clock second =>
      cases other with
      | minutes => exact compare_of_earlier_minutes earlier
      | seconds => exact Eq.trans (compare_text_of_writing rfl (Nat.zero_le 9)) earlier
      | day => rcases ofType' with rfl | rfl <;> cases ofType
      | lettered | spaced => cases ofType.symm.trans ofType'
  | lettered date clock second =>
      cases other with
      | day => exact compare_of_earlier_day earlier
      | lettered => exact Eq.trans (compare_text_of_writing rfl (Nat.zero_le 9)) earlier
      | spaced => exact compare_lettered_of_earlier earlier notTurned
      | minutes | seconds => cases ofType.symm.trans ofType'
  | spaced date clock second fraction =>
      cases other with
      | day => exact compare_of_earlier_day earlier
      | lettered => exact compare_of_dates earlier fun _ => rfl
      | spaced => exact compare_spaced_of_earlier earlier
      | minutes | seconds => cases ofType.symm.trans ofType'

/-- **An earlier moment has the lesser text**, unless both are on the same day and the earlier one
is written with a letter and the later one with a blank. -/
theorem compare_text_of_earlier {type : FieldType} {written other : WrittenMoment}
    (ofType : written.IsOf type) (ofType' : other.IsOf type)
    (earlier : written.moment.order other.moment = .lt) :
    compare written.text other.text = .lt ↔ ¬ Turned written other := by
  constructor
  · intro isLess turned
    rw [compare_text_of_turned turned] at isLess
    cases isLess
  · exact compare_text_of_not_turned ofType ofType' earlier

end WrittenMoment

/-! ## Fields of dates and times -/

/-- **When the texts of moments are in the order of the moments.**

Fields of dates and times are compared as the texts they hold, and each accepted text denotes a
moment.  If both texts are written in full, an earlier moment has the lesser text, unless both are
on one day and the earlier one is written with the letter T and the later one with a blank; then it
has not.  And if both are written in one way, with at most nine places behind the point, the texts
are exactly in the order of the moments. -/
theorem text_order_of_moments (field : Field)
    (temporal : field.type = .date ∨ field.type = .datetime ∨ field.type = .time)
    (first second : String) (accepted : Check.scalar field (.string first) = .ok ())
    (accepted' : Check.scalar field (.string second) = .ok ()) :
    SqlValue.order? ((SqlValue.text first).kept field.type.columnType)
        ((SqlValue.text second).compared (some field.type.columnType)) =
      some (compare first second) ∧
    ∃ moment moment', field.type.moment? first.toList = some moment ∧
      field.type.moment? second.toList = some moment' ∧
      ∀ written other : WrittenMoment, written.text = first.toList → other.text = second.toList →
        (moment.order moment' = .lt →
          (compare first second = .lt ↔
            ¬ (written.writing = .lettered ∧ (∃ places, other.writing = .spaced places) ∧
              moment.date = moment'.date))) ∧
        (written.writing = other.writing → written.writing.places ≤ 9 →
          compare first second = moment.order moment') := by
  have isText : field.type.columnType = .text := by
    rcases temporal with isType | isType | isType <;> rw [isType] <;> rfl
  obtain ⟨moment, denoted⟩ := Option.isSome_iff_exists.1
    ((Check.scalar_string_eq_ok_iff temporal first).1 accepted)
  obtain ⟨moment', denoted'⟩ := Option.isSome_iff_exists.1
    ((Check.scalar_string_eq_ok_iff temporal second).1 accepted')
  refine ⟨by rw [isText]; rfl, moment, moment', denoted, denoted', ?_⟩
  intro written other isWritten isWritten'
  rw [← isWritten] at denoted
  rw [← isWritten'] at denoted'
  obtain ⟨rfl, ofType⟩ := WrittenMoment.eq_moment_of_moment? denoted
  obtain ⟨rfl, ofType'⟩ := WrittenMoment.eq_moment_of_moment? denoted'
  rw [compare_toList, ← isWritten, ← isWritten']
  exact ⟨WrittenMoment.compare_text_of_earlier ofType ofType',
    WrittenMoment.compare_text_of_writing⟩

/-- The digits of a day in January 2024. -/
def inJanuary (day : Digits 2) : DateDigits where
  year := ⟨"2024".toList, rfl, List.all_eq_true.1 (by decide)⟩
  month := ⟨"01".toList, rfl, List.all_eq_true.1 (by decide)⟩
  day := day

/-- The fifth of January is before the tenth, and its text is less. -/
theorem text_order_of_january :
    Check.scalar { name := "due", type := .date } (.string "2024-01-05") = .ok () ∧
      Check.scalar { name := "due", type := .date } (.string "2024-01-10") = .ok () ∧
      compare "2024-01-05" "2024-01-10" = .lt := by
  have accepted : Check.scalar { name := "due", type := .date } (.string "2024-01-05") = .ok () :=
    rfl
  have accepted' : Check.scalar { name := "due", type := .date } (.string "2024-01-10") = .ok () :=
    rfl
  obtain ⟨-, moment, moment', denoted, denoted', inOrder⟩ := text_order_of_moments
    { name := "due", type := .date } (.inl rfl) "2024-01-05" "2024-01-10" accepted accepted'
  obtain rfl := Option.some.inj denoted
  obtain rfl := Option.some.inj denoted'
  have exactly := (inOrder (.day (inJanuary ⟨"05".toList, rfl, List.all_eq_true.1 (by decide)⟩))
    (.day (inJanuary ⟨"10".toList, rfl, List.all_eq_true.1 (by decide)⟩)) rfl rfl).2 rfl
      (Nat.zero_le 9)
  exact ⟨accepted, accepted', exactly⟩

/-- Whether texts denote moments in a field of a type, and are in another order than these. -/
def misleads (type : FieldType) (first second : String) : Bool :=
  match type.moment? first.toList, type.moment? second.toList with
  | some moment, some moment' => compare first second != moment.order moment'
  | _, _ => false

/-- A letter hides that a moment is earlier than one with a blank.  Seconds that are zero, and
digits behind the ninth place, make a difference to texts and none to moments.  And a number with a
missing digit is accepted and not in order. -/
theorem text_order_misleads :
    misleads .datetime "2024-01-01T08:00:00" "2024-01-01 10:00:00" = true ∧
      misleads .time "10:00" "10:00:00" = true ∧
      misleads .datetime "2024-01-01 10:00:00.0000000001" "2024-01-01 10:00:00.0000000002" = true ∧
      misleads .date "2024-1-5" "2024-01-10" = true := by
  refine ⟨?_, ?_, ?_, ?_⟩ <;> decide +kernel

end Inquiry
