/-!
# SignedPayments.Time.Calendar

Days and civil dates. The calendar is the Gregorian one, extended backwards and
forwards without end; the year 0 precedes the year 1.

A calculation year begins in March, so that a leap day is its last day, and 400
such years (an era of 146097 days) repeat. Day 0 is the first of January 1970.
-/

namespace SignedPayments

/-- A civil date. -/
structure Date where
  year : Int
  month : Nat
  day : Nat
deriving DecidableEq, Repr

namespace Date

/-- Whether a year has a 29th of February. -/
def isLeap (year : Int) : Bool := year % 4 = 0 && (year % 100 ≠ 0 || year % 400 = 0)

/-- How many days a month has. -/
def daysIn (year : Int) (month : Nat) : Nat :=
  if month = 2 then (if isLeap year then 29 else 28)
  else if month = 4 ∨ month = 6 ∨ month = 9 ∨ month = 11 then 30
  else 31

/-- Whether a date is in the calendar. -/
def isValid (d : Date) : Bool :=
  1 ≤ d.month && d.month ≤ 12 && 1 ≤ d.day && d.day ≤ daysIn d.year d.month

/-- Days in an era of 400 years. -/
def eraDays : Int := 146097

/-- Days from the first of March of the year 0 to day 0. -/
def epochOffset : Int := 719468

/-- The number of a date's day. -/
def toDays (d : Date) : Int :=
  let year := if d.month ≤ 2 then d.year - 1 else d.year
  let era := year / 400
  let yearOfEra := year % 400
  -- From March on, five months have 153 days: 31, 30, 31, 30 and 31.
  let monthFromMarch : Int := if d.month ≤ 2 then d.month + 9 else d.month - 3
  let dayOfYear := (153 * monthFromMarch + 2) / 5 + d.day - 1
  let dayOfEra := yearOfEra * 365 + yearOfEra / 4 - yearOfEra / 100 + dayOfYear
  era * eraDays + dayOfEra - epochOffset

/-- The date of a day. -/
def ofDays (days : Int) : Date :=
  let shifted := days + epochOffset
  let era := shifted / eraDays
  let dayOfEra := shifted % eraDays
  -- Every fourth year has a leap day, which ends it.
  let yearOfEra := (dayOfEra - dayOfEra / 1460 + dayOfEra / 36524 - dayOfEra / 146096) / 365
  let dayOfYear := dayOfEra - (365 * yearOfEra + yearOfEra / 4 - yearOfEra / 100)
  let monthFromMarch := (5 * dayOfYear + 2) / 153
  let day := dayOfYear - (153 * monthFromMarch + 2) / 5 + 1
  let month := if monthFromMarch < 10 then monthFromMarch + 3 else monthFromMarch - 9
  let year := yearOfEra + era * 400
  { year := if month ≤ 2 then year + 1 else year
    month := month.toNat
    day := day.toNat }

end Date

end SignedPayments
