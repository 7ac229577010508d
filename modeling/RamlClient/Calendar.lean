import RamlClient.Text.Segment
/-!
# Dates and times of day

Days of the Gregorian calendar from year 1 to year 9999, and times of day to the microsecond with
an optional distance from universal time.
-/

namespace RamlClient

/-- Digits of a number, padded with zeros on the left. -/
def zeroPadded (width n : Nat) : String :=
  let digits := Nat.toDigits 10 n
  String.ofList (List.replicate (width - digits.length) '0' ++ digits)

/-- A day of the calendar. -/
structure Date where
  /-- The year. -/
  year : Nat
  /-- The month of the year, from 1. -/
  month : Nat
  /-- The day of the month, from 1. -/
  day : Nat
deriving DecidableEq, Repr

namespace Date

/-- Whether a year has a leap day. -/
def isLeapYear (year : Nat) : Bool := year % 4 == 0 && (year % 100 != 0 || year % 400 == 0)

/-- The number of days of a month. -/
def daysInMonth (year month : Nat) : Nat :=
  if month = 2 then if isLeapYear year then 29 else 28
  else if month = 4 ∨ month = 6 ∨ month = 9 ∨ month = 11 then 30
  else 31

/-- The date with the given parts, if the calendar has it. -/
def ofParts? (year month day : Nat) : Option Date :=
  if 1 ≤ year ∧ year ≤ 9999 ∧ 1 ≤ month ∧ month ≤ 12 ∧ 1 ≤ day ∧ day ≤ daysInMonth year month then
    some ⟨year, month, day⟩
  else none

/-- The number of days before a date, counted from the first day of year 1. -/
def daysBefore (d : Date) : Nat :=
  let years := d.year - 1
  let months := (List.range (d.month - 1)).foldl (fun n m => n + daysInMonth d.year (m + 1)) 0
  years * 365 + years / 4 - years / 100 + years / 400 + months + (d.day - 1)

/-- Year, month and day between hyphens. -/
def text (d : Date) : String :=
  zeroPadded 4 d.year ++ "-" ++ zeroPadded 2 d.month ++ "-" ++ zeroPadded 2 d.day

/-- The parts of a date as they stand in its constructor. -/
def parts (d : Date) : List String := [toString d.year, toString d.month, toString d.day]

end Date

/-- A time of day on a date. -/
structure DateTime where
  /-- The day. -/
  date : Date
  /-- The hour. -/
  hour : Nat
  /-- The minute. -/
  minute : Nat
  /-- The second. -/
  second : Nat
  /-- The microsecond. -/
  microsecond : Nat
  /-- The distance from universal time in minutes, if it is known. -/
  offset : Option Int
deriving DecidableEq, Repr

namespace DateTime

/-- The number of minutes of a day. -/
def minutesPerDay : Int := 1440

/-- The time with the given parts, if there is one: an offset is less than a day. -/
def ofParts? (date : Date) (hour minute second microsecond : Nat) (offset : Option Int) :
    Option DateTime :=
  let offsetFits := match offset with
    | none => true
    | some m => -minutesPerDay < m && m < minutesPerDay
  if hour ≤ 23 && minute ≤ 59 && second ≤ 59 && microsecond ≤ 999999 && offsetFits then
    some ⟨date, hour, minute, second, microsecond, offset⟩
  else none

/-- An offset as sign, hours and minutes. -/
def offsetText (minutes : Int) : String :=
  (if minutes < 0 then "-" else "+") ++ zeroPadded 2 (minutes.natAbs / 60) ++ ":" ++
    zeroPadded 2 (minutes.natAbs % 60)

/-- Date and time of day with a separator between them. -/
def textWith (separator : String) (t : DateTime) : String :=
  t.date.text ++ separator ++ zeroPadded 2 t.hour ++ ":" ++ zeroPadded 2 t.minute ++ ":" ++
    zeroPadded 2 t.second ++
    (if t.microsecond = 0 then "" else "." ++ zeroPadded 6 t.microsecond) ++
    ((t.offset.map offsetText).getD "")

/-- The microseconds from the start of year 1 to a time, in universal time if its offset is
known. -/
def instant (t : DateTime) : Int :=
  let minutes : Int := (t.date.daysBefore * 24 + t.hour) * 60 + t.minute
  ((minutes - t.offset.getD 0) * 60 + t.second) * 1000000 + t.microsecond

/-- Whether two times are the same: both in universal time, or both without offset. -/
def same (s t : DateTime) : Bool := s.offset.isSome == t.offset.isSome && s.instant == t.instant

/-- The constructor call for an offset. -/
def offsetCall (minutes : Int) : String :=
  if minutes = 0 then "datetime.timezone.utc"
  else
    let seconds := (minutes % minutesPerDay) * 60
    let days := if minutes < 0 then "days=-1, " else ""
    "datetime.timezone(datetime.timedelta(" ++ days ++ "seconds=" ++ toString seconds ++ "))"

/-- The parts of a time as they stand in its constructor: trailing zeros are left out. -/
def parts (t : DateTime) : List String :=
  t.date.parts ++ [toString t.hour, toString t.minute] ++
    (if t.microsecond ≠ 0 then [toString t.second, toString t.microsecond]
     else if t.second ≠ 0 then [toString t.second] else []) ++
    ((t.offset.map fun m => "tzinfo=" ++ offsetCall m).toList)

end DateTime

end RamlClient
