import BooleanSearch.Decimal.Fixed
import BooleanSearch.Error

/-!
# Moments

Points of time, counted in seconds from the start of 1970, as dates and times of day at the prime
meridian.
-/

namespace BooleanSearch.Log

/-- A date with a time of day, in microseconds. -/
structure Moment where
  year : Int
  month : Nat
  day : Nat
  hour : Nat
  minute : Nat
  second : Nat
  microsecond : Nat
  deriving Repr, DecidableEq

namespace Moment

/-- The year, month and day of a number of days after the start of 1970.  Years are counted from
March on in eras of 400 years, so that the leap day is the last one of its year. -/
def dateOfDays (days : Int) : Int × Nat × Nat :=
  let shifted := days + 719468
  let era := shifted.fdiv 146097
  let dayOfEra := (shifted.fmod 146097).toNat
  let yearOfEra := (dayOfEra - dayOfEra / 1460 + dayOfEra / 36524 - dayOfEra / 146096) / 365
  let dayOfYear := dayOfEra - (365 * yearOfEra + yearOfEra / 4 - yearOfEra / 100)
  let shiftedMonth := (5 * dayOfYear + 2) / 153
  let day := dayOfYear - (153 * shiftedMonth + 2) / 5 + 1
  let month := if shiftedMonth < 10 then shiftedMonth + 3 else shiftedMonth - 9
  let year := (yearOfEra : Int) + era * 400 + (if month ≤ 2 then 1 else 0)
  (year, month, day)

/-- The moment of a number of seconds and microseconds. -/
def ofSeconds (seconds : Int) (microsecond : Nat) : Moment :=
  let (year, month, day) := dateOfDays (seconds.fdiv 86400)
  let ofDay := (seconds.fmod 86400).toNat
  ⟨year, month, day, ofDay / 3600, ofDay / 60 % 60, ofDay % 60, microsecond⟩

/-- The seconds of a double and its microseconds, rounded to the nearest, a tie to the even one. -/
def splitSeconds (value : Float) : Except Failure (Int × Nat) :=
  match Decimal.truncate? value with
  | none =>
    if value.isNaN then .error (.badValue "cannot convert float NaN to integer")
    else .error (.overflow "cannot convert float infinity to integer")
  | some whole =>
    let scaled := (value - Decimal.ofInt whole) * 1000000.0
    let units : Int :=
      match Decimal.Kind.ofFloat scaled with
      | .finite number =>
        if number.negative then -(number.units 0 : Int) else (number.units 0 : Int)
      | _ => 0
    let total := whole * 1000000 + units
    .ok (total.fdiv 1000000, (total.fmod 1000000).toNat)

/-- The moment of a double; only years of up to four digits have dates. -/
def ofFloat (value : Float) : Except Failure Moment := do
  let (seconds, microsecond) ← splitSeconds value
  let moment := ofSeconds seconds microsecond
  if moment.year < 1 || 9999 < moment.year then
    throw (.badValue ("year " ++ toString moment.year ++ " is out of range"))
  else return moment

def date (moment : Moment) : String :=
  Decimal.padDigits 4 moment.year.toNat ++ "-" ++ Decimal.padDigits 2 moment.month ++ "-"
    ++ Decimal.padDigits 2 moment.day

/-- The time of day of a moment in whole seconds. -/
def time (moment : Moment) : String :=
  Decimal.padDigits 2 moment.hour ++ ":" ++ Decimal.padDigits 2 moment.minute ++ ":"
    ++ Decimal.padDigits 2 moment.second

/-- The text of a moment, with microseconds unless there are none. -/
def text (moment : Moment) : String :=
  let fraction :=
    if moment.microsecond == 0 then "" else "." ++ Decimal.padDigits 6 moment.microsecond
  moment.date ++ "T" ++ moment.time ++ fraction ++ "+00:00"

/-- The text of a moment with a blank between date and time, and milliseconds. -/
def plainText (moment : Moment) : String :=
  moment.date ++ " " ++ moment.time ++ "," ++ Decimal.padDigits 3 (moment.microsecond / 1000)

end Moment

end BooleanSearch.Log
