import RecordQuery.Text.Basic

/-!
# Instants

Instants of Coordinated Universal Time: seconds since 1970 and nanoseconds, where a leap second is the
second before it with ten to the ninth more nanoseconds. Days are counted in the proleptic Gregorian
calendar.

Taken over from the usual library for calendars are the range of the years, leap seconds, which may
follow any second and do not move the date, and the text of a moment: a sign before years that are
negative or have more than four digits, and a fraction of as few digits as are exact.
-/

namespace RecordQuery

/-! ## Calendar -/

/-- A day of the calendar. -/
structure Date where
  year : Int
  month : Nat
  day : Nat
deriving DecidableEq, Repr

namespace Date

/-- The years that an instant may lie in. -/
def minYear : Int := -262143
def maxYear : Int := 262142

def isLeapYear (year : Int) : Bool :=
  year % 4 == 0 && (year % 100 != 0 || year % 400 == 0)

def daysInMonth (year : Int) (month : Nat) : Nat :=
  if month = 2 then (if isLeapYear year then 29 else 28)
  else if month = 4 ∨ month = 6 ∨ month = 9 ∨ month = 11 then 30
  else 31

/-- The date, if the calendar has it and its year is in range. -/
def valid? (year : Int) (month day : Nat) : Option Date :=
  if minYear ≤ year ∧ year ≤ maxYear ∧ 1 ≤ month ∧ month ≤ 12 ∧
      1 ≤ day ∧ day ≤ daysInMonth year month then
    some ⟨year, month, day⟩
  else none

/-- Days from 1970-01-01. Years are counted from March, so a leap day is the last of its year. -/
def toDays (date : Date) : Int :=
  let year := if date.month ≤ 2 then date.year - 1 else date.year
  let era := year / 400
  let yearOfEra := year - era * 400
  let monthFromMarch : Int := if date.month ≤ 2 then date.month + 9 else date.month - 3
  let dayOfYear := (153 * monthFromMarch + 2) / 5 + date.day - 1
  let dayOfEra := yearOfEra * 365 + yearOfEra / 4 - yearOfEra / 100 + dayOfYear
  era * 146097 + dayOfEra - 719468

/-- The date that lies so many days after 1970-01-01. -/
def ofDays (days : Int) : Date :=
  let shifted := days + 719468
  let era := shifted / 146097
  let dayOfEra := shifted - era * 146097
  let yearOfEra := (dayOfEra - dayOfEra / 1460 + dayOfEra / 36524 - dayOfEra / 146096) / 365
  let dayOfYear := dayOfEra - (365 * yearOfEra + yearOfEra / 4 - yearOfEra / 100)
  let monthFromMarch := (5 * dayOfYear + 2) / 153
  let day := dayOfYear - (153 * monthFromMarch + 2) / 5 + 1
  let month := if monthFromMarch < 10 then monthFromMarch + 3 else monthFromMarch - 9
  let year := yearOfEra + era * 400 + (if month ≤ 2 then 1 else 0)
  ⟨year, month.toNat, day.toNat⟩

end Date

/-! ## Instants -/

/-- A moment: whole seconds since 1970-01-01 00:00:00 UTC and nanoseconds after them. -/
structure Instant where
  seconds : Int
  nanos : Nat
deriving DecidableEq, Repr

namespace Instant

def nanosPerSecond : Nat := 1000000000

def secondsPerDay : Int := 86400

/-- The moment of a date and a time of day. A second of 60 is a leap second. -/
def ofCivil (date : Date) (hour minute second nanos : Nat) : Instant :=
  let leap := second = 60
  { seconds := date.toDays * secondsPerDay + hour * 3600 + minute * 60 +
      (if leap then 59 else second : Nat)
    nanos := if leap then nanos + nanosPerSecond else nanos }

def date (instant : Instant) : Date :=
  Date.ofDays (instant.seconds / secondsPerDay)

def secondOfDay (instant : Instant) : Nat :=
  (instant.seconds % secondsPerDay).toNat

/-! ## Text -/

/-- Four digits, with a sign when the year is negative or has more. -/
def yearLetters (year : Int) : List Char :=
  if 0 ≤ year ∧ year ≤ 9999 then Text.padded 4 year.toNat
  else (if year < 0 then '-' else '+') :: Text.padded 4 year.natAbs

/-- Nothing, or a point with 3, 6 or 9 digits, the fewest that are exact. -/
def fractionLetters (nanos : Nat) : List Char :=
  if nanos = 0 then []
  else if nanos % 1000000 = 0 then '.' :: Text.padded 3 (nanos / 1000000)
  else if nanos % 1000 = 0 then '.' :: Text.padded 6 (nanos / 1000)
  else '.' :: Text.padded 9 nanos

/-- Date, separator, time of day and fraction. A leap second shows as second 60. -/
def letters (separator : Char) (instant : Instant) : List Char :=
  let date := instant.date
  let clock := instant.secondOfDay
  let second := clock % 60 + instant.nanos / nanosPerSecond
  yearLetters date.year ++ '-' :: Text.padded 2 date.month ++ '-' :: Text.padded 2 date.day ++
    separator :: Text.padded 2 (clock / 3600) ++ ':' :: Text.padded 2 (clock / 60 % 60) ++
    ':' :: Text.padded 2 second ++ fractionLetters (instant.nanos % nanosPerSecond)

/-- The text that is bound for a moment and under which it is keyed. -/
def text (instant : Instant) : String :=
  String.ofList (instant.letters ' ')

/-- The text of a moment in a tagged value. -/
def tagged (instant : Instant) : String :=
  String.ofList (instant.letters 'T' ++ ['Z'])

end Instant

end RecordQuery
