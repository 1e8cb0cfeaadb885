import Volley.Decimal.Binary64
import Volley.Decimal.Digits

/-!
# Points in time

A point in time is a number of seconds since the beginning of 1970, in universal time. It is written
as date and time of day, to the second or to the microsecond.

## Main definitions

- `Calendar.ofDays`: the date of a day.
- `Calendar.plainText?`: to the second, rounded down.
- `Calendar.isoText?`: to the microsecond, rounded half to even; no fraction is written for whole
  seconds.
-/

namespace Volley

namespace Calendar

open Decimal

/-- A date of the Gregorian calendar. -/
structure Date where
  year : Int
  month : Nat
  day : Nat
  deriving DecidableEq, Repr

/-- The date that is so many days after the first of January 1970. Days are counted in eras of 400
years and years from the first of March, so that a leap day ends its year. -/
def ofDays (days : Int) : Date :=
  -- The first day of an era is a first of March.
  let shifted := days + 719468
  let era := shifted.fdiv 146097
  let dayOfEra := (shifted - era * 146097).toNat
  -- Takes out the leap days that lie before the day.
  let yearOfEra := (dayOfEra - dayOfEra / 1460 + dayOfEra / 36524 - dayOfEra / 146096) / 365
  let dayOfYear := dayOfEra - (365 * yearOfEra + yearOfEra / 4 - yearOfEra / 100)
  -- From March on, five months at a time have 153 days.
  let marchMonth := (5 * dayOfYear + 2) / 153
  let month := if marchMonth < 10 then marchMonth + 3 else marchMonth - 9
  let year := (yearOfEra : Int) + era * 400
  { year := if month ≤ 2 then year + 1 else year
    month
    day := dayOfYear - (153 * marchMonth + 2) / 5 + 1 }

def dateOf (seconds : Int) : Date :=
  ofDays (seconds.fdiv 86400)

/-- Date and time of day of a whole second, with this text for the year and `separator` between date
and time. -/
def secondText (year : String) (seconds : Int) (separator : String) : String :=
  let rest := (seconds - seconds.fdiv 86400 * 86400).toNat
  let date := dateOf seconds
  year ++ "-" ++ padded 2 date.month ++ "-" ++ padded 2 date.day ++ separator ++
    padded 2 (rest / 3600) ++ ":" ++ padded 2 (rest / 60 % 60) ++ ":" ++ padded 2 (rest % 60)

/-- The greatest integer that is at most a number; an infinite or undefined number has none. -/
def floorOf? (x : Float) : Option Int :=
  match Binary64.ofFloat x with
  | .finite negative significand exponent =>
    let (num, den) := Binary64.quotient significand exponent
    -- Away from zero for a number below it.
    some (if negative then -(((num + den - 1) / den : Nat) : Int) else ((num / den : Nat) : Int))
  | _ => none

/-- A number without the part after its point; an infinite or undefined number has none. -/
def wholeOf? (x : Float) : Option Int :=
  match Binary64.ofFloat x with
  | .finite negative significand exponent =>
    let (num, den) := Binary64.quotient significand exponent
    some (if negative then -((num / den : Nat) : Int) else ((num / den : Nat) : Int))
  | _ => none

/-- The integer nearest to a number, a tie going to the even one. -/
def nearestTo (x : Float) : Int :=
  match Binary64.ofFloat x with
  | .finite negative significand exponent =>
    let (num, den) := Binary64.quotient significand exponent
    let n : Int := roundHalfEven num den
    if negative then -n else n
  | _ => 0

/-- The whole seconds and the microseconds of a point in time. The part after the point is scaled to
microseconds and rounded; it may carry into the seconds. -/
def microseconds? (x : Float) : Option (Int × Nat) :=
  (wholeOf? x).map fun seconds =>
    let micros := nearestTo ((x - Binary64.ratio seconds 1) * 1000000)
    if 1000000 ≤ micros then (seconds + 1, (micros - 1000000).toNat)
    else if micros < 0 then (seconds - 1, (micros + 1000000).toNat)
    else (seconds, micros.toNat)

/-- A point in time to the second, if its year is in the range of 32 bits. -/
def plainText? (x : Float) : Option String :=
  (floorOf? x).bind fun seconds =>
    let year := (dateOf seconds).year
    if -2147481748 ≤ year ∧ year ≤ 2147483647 then
      some (secondText (integer year) seconds " ")
    else none

/-- A point in time to the microsecond, with the offset of universal time, if its year has one to
four digits. -/
def isoText? (x : Float) : Option String :=
  (microseconds? x).bind fun (seconds, micros) =>
    let year := (dateOf seconds).year
    if 1 ≤ year ∧ year ≤ 9999 then
      let fraction := if micros = 0 then "" else "." ++ padded 6 micros
      some (secondText (padded 4 year.toNat) seconds "T" ++ fraction ++ "+00:00")
    else none

end Calendar

end Volley
