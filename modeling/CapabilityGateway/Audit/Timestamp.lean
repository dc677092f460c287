import CapabilityGateway.Number.Decimal

/-!
# Timestamps

A moment in universal time: the seconds since the start of 1970 and the nanoseconds within the
second. A billion nanoseconds or more mean a leap second, which is written as second 60 of its
minute.

The date is read off the proleptic Gregorian calendar. Years are counted from March, so that the
leap day is the last of its year, and 400 such years are 146097 days.
-/

namespace CapabilityGateway

structure Timestamp where
  seconds : Int
  nanos : Nat
  deriving DecidableEq

/-- A day of the calendar. -/
structure CalendarDay where
  year : Int
  month : Nat
  day : Nat
  deriving DecidableEq

namespace CalendarDay

/-- The day that lies a number of days after the first of January 1970. -/
def ofDays (days : Int) : CalendarDay :=
  -- days since the first of March of the year 0
  let shifted := days + 719468
  let era := shifted / 146097
  let dayOfEra := (shifted % 146097).toNat
  let yearOfEra :=
    (dayOfEra - dayOfEra / 1460 + dayOfEra / 36524 - dayOfEra / 146096) / 365
  let dayOfYear := dayOfEra - (365 * yearOfEra + yearOfEra / 4 - yearOfEra / 100)
  -- months of 30 and 31 days alternate so that five of them have 153 days
  let monthFromMarch := (5 * dayOfYear + 2) / 153
  let month := if monthFromMarch < 10 then monthFromMarch + 3 else monthFromMarch - 9
  { year := era * 400 + yearOfEra + (if month ≤ 2 then 1 else 0)
    month := month
    day := dayOfYear - (153 * monthFromMarch + 2) / 5 + 1 }

end CalendarDay

namespace Timestamp

/-- The digits of `n`, filled up with zeros in front. -/
def padded (width n : Nat) : List Char :=
  let ds := Decimal.digits n
  List.replicate (width - ds.length) '0' ++ ds

/-- Years of four digits stand alone, all others carry a sign. -/
def yearText (year : Int) : List Char :=
  if 0 ≤ year ∧ year ≤ 9999 then padded 4 year.toNat
  else (if year < 0 then '-' else '+') :: padded 4 year.natAbs

/-- The day of the moment. -/
def date (t : Timestamp) : CalendarDay := CalendarDay.ofDays (t.seconds / 86400)

/-- The seconds since midnight. -/
def secondOfDay (t : Timestamp) : Nat := (t.seconds % 86400).toNat

/-- The second of the minute, 60 for a leap second. -/
def second (t : Timestamp) : Nat :=
  t.secondOfDay % 60 + t.nanos / 1000000000

/-- The nanoseconds within the second. -/
def subsecond (t : Timestamp) : Nat := t.nanos % 1000000000

/-- The text of the moment up to the whole second. -/
def wholeText (t : Timestamp) : List Char :=
  yearText t.date.year ++ '-' :: padded 2 t.date.month ++ '-' :: padded 2 t.date.day ++
    'T' :: padded 2 (t.secondOfDay / 3600) ++ ':' :: padded 2 (t.secondOfDay / 60 % 60) ++
    ':' :: padded 2 t.second

/-- The text with three digits of the second's fraction; further digits are cut off. -/
def millisText (t : Timestamp) : List Char :=
  t.wholeText ++ '.' :: padded 3 (t.subsecond / 1000000) ++ ['Z']

/-- The text with as many digits of the second's fraction, in groups of three, as it takes to be
exact. -/
def exactText (t : Timestamp) : List Char :=
  let fraction :=
    if t.subsecond = 0 then []
    else if t.subsecond % 1000000 = 0 then '.' :: padded 3 (t.subsecond / 1000000)
    else if t.subsecond % 1000 = 0 then '.' :: padded 6 (t.subsecond / 1000)
    else '.' :: padded 9 t.subsecond
  t.wholeText ++ fraction ++ ['Z']

end Timestamp

end CapabilityGateway
