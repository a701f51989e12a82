/-!
Dates and times of day, as settings files may hold them.
-/
namespace QueryPlayground

structure Date where
  year : Nat
  month : Nat
  day : Nat
  deriving DecidableEq, Repr

/-- A time on a date, with the minutes by which its zone is ahead if a zone is known. -/
structure Instant where
  date : Date
  hour : Nat
  minute : Nat
  second : Nat
  microsecond : Nat
  offset : Option Int
  deriving DecidableEq, Repr

/-- Why numbers make no date or time. -/
inductive CalendarFault where
  | year (year : Nat)
  | month
  | day
  | hour
  | minute
  | second
  | offset (minutes : Int)
  deriving DecidableEq, Repr

namespace Date

def isLeap (year : Nat) : Bool := year % 4 == 0 && (year % 100 != 0 || year % 400 == 0)

def daysIn (year month : Nat) : Nat :=
  if month = 2 then (if isLeap year then 29 else 28)
  else if month = 4 ∨ month = 6 ∨ month = 9 ∨ month = 11 then 30
  else 31

/-- The number of a date; the first day of the year one has number one. -/
def dayNumber (date : Date) : Nat :=
  let years := date.year - 1
  let months := (List.range (date.month - 1)).map fun month => daysIn date.year (month + 1)
  365 * years + years / 4 - years / 100 + years / 400 + months.foldr (· + ·) 0 + date.day

/-- The date of three numbers, unless one is out of range. -/
def make (year month day : Nat) : Except CalendarFault Date :=
  if year = 0 ∨ 9999 < year then .error (.year year)
  else if month = 0 ∨ 12 < month then .error .month
  else if day = 0 ∨ daysIn year month < day then .error .day
  else .ok ⟨year, month, day⟩

end Date

/-- A number with zeros in front. -/
def paddedNumber (width n : Nat) : List Char :=
  let digits := Nat.toDigits 10 n
  List.replicate (width - digits.length) '0' ++ digits

def decimalText (n : Nat) : List Char := Nat.toDigits 10 n

namespace Date

/-- The date as it is written: year, month and day. -/
def text (date : Date) : List Char :=
  paddedNumber 4 date.year ++ '-' :: (paddedNumber 2 date.month ++ '-' :: paddedNumber 2 date.day)

private def arguments (date : Date) : List Char :=
  decimalText date.year ++ ',' :: ' ' :: (decimalText date.month ++ ',' :: ' ' :: decimalText date.day)

/-- The date as a part of a larger display. -/
def shown (date : Date) : List Char := "datetime.date(".toList ++ date.arguments ++ [')']

end Date

/-- A length of time of whole minutes, as days and seconds of a day. -/
def shownMinutes (minutes : Int) : List Char :=
  let days := minutes / 1440
  let seconds := (minutes % 1440) * 60
  let part (name : String) (n : Int) : List Char := name.toList ++ '=' :: (toString n).toList
  let parts :=
    if days = 0 ∧ seconds = 0 then ['0']
    else if days = 0 then part "seconds" seconds
    else if seconds = 0 then part "days" days
    else part "days" days ++ ',' :: ' ' :: part "seconds" seconds
  "datetime.timedelta(".toList ++ parts ++ [')']

def CalendarFault.message : CalendarFault → String
  | .year n => s!"year {n} is out of range"
  | .month => "month must be in 1..12"
  | .day => "day is out of range for month"
  | .hour => "hour must be in 0..23"
  | .minute => "minute must be in 0..59"
  | .second => "second must be in 0..59"
  | .offset minutes =>
    "offset must be a timedelta strictly between -timedelta(hours=24) and timedelta(hours=24), not " ++
      String.ofList (shownMinutes minutes) ++ "."

namespace Instant

/-- The time of a date and numbers, unless one is out of range. The zone is looked at first. -/
def make (year month day hour minute second microsecond : Nat) (offset : Option Int) :
    Except CalendarFault Instant := do
  match offset with
  | some minutes => if minutes ≤ -1440 ∨ 1440 ≤ minutes then throw (.offset minutes)
  | none => pure ()
  let date ← Date.make year month day
  if 23 < hour then throw .hour
  if 59 < minute then throw .minute
  if 59 < second then throw .second
  return ⟨date, hour, minute, second, microsecond, offset⟩

/-- The microseconds from the beginning of the calendar to a time whose zone is known, counted where no
zone is ahead. -/
def moment? (time : Instant) : Option Int :=
  time.offset.map fun offset =>
    let minutes : Int := 1440 * time.date.dayNumber + 60 * time.hour + time.minute - offset
    1000000 * (60 * minutes + time.second) + time.microsecond

/-- The zone as it is written after a time. -/
def zoneText : Option Int → List Char
  | none => []
  | some minutes =>
    (if minutes < 0 then '-' else '+') :: (paddedNumber 2 (minutes.natAbs / 60) ++
      ':' :: paddedNumber 2 (minutes.natAbs % 60))

/-- The time as it is written: date, time and zone. -/
def text (time : Instant) : List Char :=
  time.date.text ++ ' ' :: (paddedNumber 2 time.hour ++ ':' :: (paddedNumber 2 time.minute ++
    ':' :: (paddedNumber 2 time.second ++
      (if time.microsecond = 0 then [] else '.' :: paddedNumber 6 time.microsecond) ++
      zoneText time.offset)))

/-- The time as a part of a larger display; parts at the end that are zero are left out. -/
def shown (time : Instant) : List Char :=
  let tail := if time.microsecond ≠ 0 then [time.second, time.microsecond]
    else if time.second ≠ 0 then [time.second]
    else []
  let numbers := [time.date.year, time.date.month, time.date.day, time.hour, time.minute] ++ tail
  let zone := match time.offset with
    | none => []
    | some minutes =>
      if minutes = 0 then ", tzinfo=datetime.timezone.utc".toList
      else ", tzinfo=datetime.timezone(".toList ++ shownMinutes minutes ++ [')']
  "datetime.datetime(".toList ++ [',', ' '].intercalate (numbers.map decimalText) ++ zone ++ [')']

end Instant
end QueryPlayground
