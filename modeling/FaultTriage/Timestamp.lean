import FaultTriage.Text.Hex

/-!
# Timestamps

A moment of universal time, written as a date and a time of day with its offset from universal time.
The fraction of the second has as many groups of three digits as it needs, and none when it is zero.
-/

set_option autoImplicit false

namespace FaultTriage

/--
A moment as seconds since the start of 1970 and nanoseconds within the second.  A leap second is the
second before it with a thousand million nanoseconds or more.
-/
structure Timestamp where
  seconds : Int
  nanoseconds : Nat
deriving DecidableEq

namespace Timestamp

def secondLength : Nat := 1000000000

def dayLength : Int := 86400

structure Date where
  year : Int
  month : Nat
  day : Nat
deriving DecidableEq

/--
The date of a day given by its number, day zero being the first of 1970.  Days are counted from the
first of March, so that a leap day ends a year, within periods of 400 years, which all have the same
length.
-/
def dateOf (days : Int) : Date :=
  let shifted := days + 719468
  let period := shifted / 146097
  let dayOfPeriod := (shifted % 146097).toNat
  let yearOfPeriod :=
    (dayOfPeriod - dayOfPeriod / 1460 + dayOfPeriod / 36524 - dayOfPeriod / 146096) / 365
  let dayOfYear := dayOfPeriod - (365 * yearOfPeriod + yearOfPeriod / 4 - yearOfPeriod / 100)
  let monthFromMarch := (5 * dayOfYear + 2) / 153
  let month := if monthFromMarch < 10 then monthFromMarch + 3 else monthFromMarch - 9
  let yearFromMarch := (yearOfPeriod : Int) + period * 400
  { year := if month ≤ 2 then yearFromMarch + 1 else yearFromMarch
    month := month
    day := dayOfYear - (153 * monthFromMarch + 2) / 5 + 1 }

/-- A year with four digits at least, and with a sign when four digits without one do not do. -/
def yearText (year : Int) : List Char :=
  if 0 ≤ year && year ≤ 9999 then Text.paddedDecimal 4 year.toNat
  else (if year < 0 then '-' else '+') :: Text.paddedDecimal 4 year.natAbs

def twoDigits (value : Nat) : List Char :=
  Text.paddedDecimal 2 value

/-- The fraction of a second in the fewest groups of three digits. -/
def fractionText (nanoseconds : Nat) : List Char :=
  if nanoseconds = 0 then []
  else if nanoseconds % 1000000 = 0 then '.' :: Text.paddedDecimal 3 (nanoseconds / 1000000)
  else if nanoseconds % 1000 = 0 then '.' :: Text.paddedDecimal 6 (nanoseconds / 1000)
  else '.' :: Text.paddedDecimal 9 nanoseconds

def Date.render (date : Date) : List Char :=
  yearText date.year ++ '-' :: twoDigits date.month ++ '-' :: twoDigits date.day

def timeText (second nanoseconds : Nat) : List Char :=
  twoDigits (second / 3600) ++ ':' :: twoDigits (second / 60 % 60) ++ ':'
    :: twoDigits (second % 60 + nanoseconds / secondLength)
    ++ fractionText (nanoseconds % secondLength)

def render (timestamp : Timestamp) : String :=
  let date := dateOf (timestamp.seconds / dayLength)
  let second := (timestamp.seconds % dayLength).toNat
  String.ofList
    (date.render ++ 'T' :: timeText second timestamp.nanoseconds ++ "+00:00".toList)

end Timestamp

end FaultTriage
