import Lamplighter.Timeline.Moment
import Lamplighter.Text.Digits

/-!
# Calendar: moments as dates

The clock starts with the first of January 1970.  A moment is written as a date and a
time of day in UTC, to the second and rounded down, years with at least four digits.
-/

namespace Lamplighter.Calendar

open Text

/-- decimal digits, with zeros in front up to a width -/
def padded (width n : Nat) : List Char :=
  List.replicate (width - (decimal n).length) '0' ++ decimal n

/-- year, month and day of a day counted from the first of January 1970 -/
def dateOfDay (day : Nat) : Nat × Nat × Nat :=
  -- counted from the first of March of the year 0, in eras of 400 years
  let z := day + 719468
  let era := z / 146097
  let dayOfEra := z % 146097
  let yearOfEra := (dayOfEra - dayOfEra / 1460 + dayOfEra / 36524 - dayOfEra / 146096) / 365
  let dayOfYear := dayOfEra - (365 * yearOfEra + yearOfEra / 4 - yearOfEra / 100)
  let marchMonth := (5 * dayOfYear + 2) / 153
  let dayOfMonth := dayOfYear - (153 * marchMonth + 2) / 5 + 1
  let month := if marchMonth < 10 then marchMonth + 3 else marchMonth - 9
  (yearOfEra + era * 400 + (if month ≤ 2 then 1 else 0), month, dayOfMonth)

def stampChars (seconds : Nat) : List Char :=
  let (year, month, day) := dateOfDay (seconds / 86400)
  let rest := seconds % 86400
  padded 4 year ++ '-' :: padded 2 month ++ '-' :: padded 2 day ++ 'T' :: padded 2 (rest / 3600)
    ++ ':' :: padded 2 (rest / 60 % 60) ++ ':' :: padded 2 (rest % 60) ++ ['Z']

/-- the date and time of a moment -/
def stamp (moment : Moment) : String :=
  String.ofList (stampChars moment.wholeSeconds.toNat)

example : String.ofList (stampChars 951782400) = "2000-02-29T00:00:00Z" := by decide +kernel
example : String.ofList (stampChars 68169599) = "1972-02-28T23:59:59Z" := by decide +kernel

end Lamplighter.Calendar
