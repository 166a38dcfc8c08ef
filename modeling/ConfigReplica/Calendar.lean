import ConfigReplica.Decimal.Digits

/-!
# Calendar dates

Times are shown by the minute as dates of the Gregorian calendar, extended to all years, in UTC
(`Calendar.minuteText`). Years are counted from March for the conversion, so that the leap day is the
last day of its year; four hundred years always have the same number of days, an era.
-/

namespace ConfigReplica.Calendar

/-- A day of the calendar. -/
structure Date where
  year : Int
  month : Nat
  day : Nat
  deriving DecidableEq, Repr

/-- The days of an era. -/
def daysOfEra : Nat := 146097

/-- The years of an era before a day of it. -/
def yearsBefore (day : Nat) : Nat :=
  (day - day / 1460 + day / 36524 - day / 146096) / 365

/-- The date of a day, counted from 1970-01-01. -/
def dateOf (day : Int) : Date :=
  let sinceMarch := day + 719468
  let era := sinceMarch / daysOfEra
  let dayOfEra := (sinceMarch % daysOfEra).toNat
  let years := yearsBefore dayOfEra
  let dayOfYear := dayOfEra - (365 * years + years / 4 - years / 100)
  let month := (5 * dayOfYear + 2) / 153
  { year := era * 400 + years + (if month < 10 then 0 else 1)
    month := if month < 10 then month + 3 else month - 9
    day := dayOfYear - (153 * month + 2) / 5 + 1 }

/-- A year in four digits, with a sign where it is negative or has more digits. -/
def yearText (year : Int) : List Char :=
  let digits := Decimal.padded 4 year.natAbs
  if year < 0 then '-' :: digits
  else if 9999 < year then '+' :: digits
  else digits

/-- The first and the last year that are shown. -/
def firstYear : Int := -262143

/-- The last year that is shown. -/
def lastYear : Int := 262142

/-- A time, in milliseconds since 1970, as date, hour and minute; times outside the years that are
shown are a hyphen. -/
def minuteText (time : Int64) : String :=
  let minutes := time.toInt / 60000
  let date := dateOf (minutes / 1440)
  let minute := (minutes % 1440).toNat
  if date.year < firstYear ∨ lastYear < date.year then "-"
  else
    String.ofList <|
      yearText date.year ++ '-' :: Decimal.padded 2 date.month ++ '-' :: Decimal.padded 2 date.day ++
        ' ' :: Decimal.padded 2 (minute / 60) ++ ':' :: Decimal.padded 2 (minute % 60)

end ConfigReplica.Calendar
