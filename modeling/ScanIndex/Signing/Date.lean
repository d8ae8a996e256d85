/-!
# Dates of requests

`requestDate` writes a time, given in seconds since the beginning of 1970, as year, month and day
and, behind a `T`, as hour, minute and second, all without separators.
-/

namespace ScanIndex

/-- The text of a number with at least so many digits. -/
def padded (width n : Nat) : String :=
  let ds := Nat.toDigits 10 n
  String.ofList (List.replicate (width - ds.length) '0' ++ ds)

/-- The text of a year: four digits from 0 to 9999, and a sign and at least four digits
otherwise. -/
def yearText (y : Int) : String :=
  if y < 0 then "-" ++ padded 4 y.natAbs
  else if y ≤ 9999 then padded 4 y.natAbs
  else "+" ++ padded 4 y.natAbs

/-- The year, the month and the day of the day that is so many days after the first of March of the
year 0.  Years begin in March, so that a leap day is the last day of its year. -/
def civilOfDays (days : Int) : Int × Nat × Nat :=
  let era := days.fdiv 146097
  let dayOfEra := (days - era * 146097).toNat
  let yearOfEra := (dayOfEra - dayOfEra / 1460 + dayOfEra / 36524 - dayOfEra / 146096) / 365
  let dayOfYear := dayOfEra - (365 * yearOfEra + yearOfEra / 4 - yearOfEra / 100)
  let index := (5 * dayOfYear + 2) / 153
  let day := dayOfYear - (153 * index + 2) / 5 + 1
  let month := if index < 10 then index + 3 else index - 9
  (era * 400 + yearOfEra + (if month ≤ 2 then 1 else 0), month, day)

/-- The text of a time. -/
def requestDate (seconds : Int) : String :=
  let days := seconds.fdiv 86400
  let second := (seconds - days * 86400).toNat
  let (year, month, day) := civilOfDays (days + 719468)
  yearText year ++ padded 2 month ++ padded 2 day ++ "T" ++ padded 2 (second / 3600)
    ++ padded 2 (second / 60 % 60) ++ padded 2 (second % 60) ++ "Z"

end ScanIndex
