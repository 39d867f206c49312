/-
**Dates and times, and their text in SQL.**

Dates are those of the proleptic Gregorian calendar. Years from 0 to 9999 have four digits; other
years carry their sign and have at least four. The text of a time leaves out what is smaller than
a second; the leap second is second 60.

* `Date.ofDayNumber` — the date a number of days after 1970-01-01;
* `DateTime.ofUnix` — the date and time a number of seconds after the start of that day.
-/

namespace SqlCraft

/-- A date. -/
structure Date where
  year : Int
  month : Nat
  day : Nat
deriving DecidableEq, Repr

/-- A date and a time of day. A leap second is told by a nanosecond count beyond a second. -/
structure DateTime where
  date : Date
  hour : Nat
  minute : Nat
  second : Nat
  nanosecond : Nat
deriving DecidableEq, Repr

/-- The digits of a number, with zeros in front up to a width. -/
def paddedDigits (width number : Nat) : String :=
  let digits := (toString number).toList
  String.ofList (List.replicate (width - digits.length) '0' ++ digits)

namespace Date

/-- The year: four digits, or a sign and at least four digits. -/
def yearText (year : Int) : String :=
  if 0 ≤ year ∧ year ≤ 9999 then paddedDigits 4 year.natAbs
  else (if year < 0 then "-" else "+") ++ paddedDigits 4 year.natAbs

/-- Year, month and day. -/
def text (date : Date) : String :=
  yearText date.year ++ "-" ++ paddedDigits 2 date.month ++ "-" ++ paddedDigits 2 date.day

/-- The date that is the given number of days after 1970-01-01. Years are counted from March, so
that a leap day ends its year, and grouped by the 146097 days of four centuries. -/
def ofDayNumber (days : Int) : Date :=
  let shifted := days + 719468
  let era := shifted.fdiv 146097
  let dayOfEra := (shifted.fmod 146097).toNat
  let yearOfEra := (dayOfEra - dayOfEra / 1460 + dayOfEra / 36524 - dayOfEra / 146096) / 365
  let dayOfYear := dayOfEra - (365 * yearOfEra + yearOfEra / 4 - yearOfEra / 100)
  let marchMonth := (5 * dayOfYear + 2) / 153
  let day := dayOfYear - (153 * marchMonth + 2) / 5 + 1
  let month := if marchMonth < 10 then marchMonth + 3 else marchMonth - 9
  let year := yearOfEra + era * 400
  ⟨if month ≤ 2 then year + 1 else year, month, day⟩

end Date

namespace DateTime

/-- The date, a blank, and hours, minutes and seconds. -/
def text (time : DateTime) : String :=
  time.date.text ++ " " ++ paddedDigits 2 time.hour ++ ":" ++ paddedDigits 2 time.minute ++ ":" ++
    paddedDigits 2 (time.second + time.nanosecond / 1000000000)

/-- The date and time that is the given number of seconds after the start of 1970, and the
nanoseconds after that second. -/
def ofUnix (seconds : Int) (nanosecond : Nat) : DateTime :=
  let secondOfDay := (seconds.fmod 86400).toNat
  ⟨.ofDayNumber (seconds.fdiv 86400), secondOfDay / 3600, secondOfDay / 60 % 60, secondOfDay % 60,
    nanosecond⟩

end DateTime

end SqlCraft
