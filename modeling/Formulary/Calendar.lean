/-!
# Calendar

Moments in universal time, counted in seconds from the start of 1970, and their text in the
Gregorian calendar, which is continued before its adoption.
-/

namespace Formulary.Calendar

/-- A day of the Gregorian calendar. -/
structure Date where
  year : Int
  month : Nat
  day : Nat
  deriving DecidableEq, Repr

/-- Days from the first of March of the year 0 to the start of 1970. -/
def daysTo1970 : Int := 719468

/-- The date of a day, counted from the start of 1970. Years are taken from March on, so that a
leap day is a year's last, in eras of 400 years, which all have the same number of days. -/
def dateOfDay (day : Int) : Date :=
  let z := day + daysTo1970
  let era := z / 146097
  let dayOfEra := z % 146097
  let yearOfEra :=
    (dayOfEra - dayOfEra / 1460 + dayOfEra / 36524 - dayOfEra / 146096) / 365
  let dayOfYear := dayOfEra - (365 * yearOfEra + yearOfEra / 4 - yearOfEra / 100)
  let shifted := (5 * dayOfYear + 2) / 153
  let month := if shifted < 10 then shifted + 3 else shifted - 9
  { year := yearOfEra + era * 400 + if month ≤ 2 then 1 else 0
    month := month.toNat
    day := (dayOfYear - (153 * shifted + 2) / 5 + 1).toNat }

/-- A number in decimal digits, at least `width` of them. -/
def digits (width n : Nat) : String :=
  let text := toString n
  String.ofList (List.replicate (width - text.length) '0') ++ text

/-- A year in four digits; one outside of the years 0 to 9999 has a sign. -/
def yearText (year : Int) : String :=
  if 0 ≤ year ∧ year ≤ 9999 then digits 4 year.toNat
  else if year < 0 then "-" ++ digits 4 year.natAbs
  else "+" ++ digits 4 year.natAbs

/-- A moment as `YYYY-MM-DDTHH:MM:SSZ`. -/
def momentText (seconds : Int) : String :=
  let date := dateOfDay (seconds / 86400)
  let second := (seconds % 86400).toNat
  yearText date.year ++ "-" ++ digits 2 date.month ++ "-" ++ digits 2 date.day ++ "T" ++
    digits 2 (second / 3600) ++ ":" ++ digits 2 (second / 60 % 60) ++ ":" ++
    digits 2 (second % 60) ++ "Z"

end Formulary.Calendar
