/-!
# Instants

A point of time as the number of milliseconds since the start of 1970 in universal time. It is
written as a date and a time of day, with a fraction where it is no whole second.

* `Instant.text` is the written form.
* `Instant.dateOf` is the date of a day in the Gregorian calendar.
-/

namespace HardwareWatch

/-- Milliseconds since the start of 1970. -/
abbrev Instant := Int

namespace Instant

/-- The milliseconds of a day. -/
def dayLength : Int := 86400000

/-- Year, month and day of the day with a number, counted from the start of 1970. The calendar
repeats every 400 years, and its years are taken to begin in March. -/
def dateOf (day : Int) : Int × Nat × Nat :=
  let shifted := day + 719468
  let era := shifted.fdiv 146097
  let dayOfEra := (shifted - era * 146097).toNat
  let yearOfEra := (dayOfEra - dayOfEra / 1460 + dayOfEra / 36524 - dayOfEra / 146096) / 365
  let dayOfYear := dayOfEra - (365 * yearOfEra + yearOfEra / 4 - yearOfEra / 100)
  let monthFromMarch := (5 * dayOfYear + 2) / 153
  let dayOfMonth := dayOfYear - (153 * monthFromMarch + 2) / 5 + 1
  let month := if monthFromMarch < 10 then monthFromMarch + 3 else monthFromMarch - 9
  let year := (yearOfEra : Int) + era * 400
  (if month ≤ 2 then year + 1 else year, month, dayOfMonth)

/-- A number with at least `width` digits. -/
def padded (width n : Nat) : String :=
  let digits := toString n
  String.ofList (List.replicate (width - digits.length) '0') ++ digits

/-- A year: four digits, or at least four behind a sign. -/
def yearText (year : Int) : String :=
  if 0 ≤ year ∧ year ≤ 9999 then padded 4 year.toNat
  else (if year < 0 then "-" else "+") ++ padded 4 year.natAbs

/-- The written form of an instant. -/
def text (t : Instant) : String :=
  let day := Int.fdiv t dayLength
  let ms := (t - day * dayLength).toNat
  let (year, month, dayOfMonth) := dateOf day
  let fraction := if ms % 1000 = 0 then "" else "." ++ padded 3 (ms % 1000)
  yearText year ++ "-" ++ padded 2 month ++ "-" ++ padded 2 dayOfMonth ++ "T"
    ++ padded 2 (ms / 3600000) ++ ":" ++ padded 2 (ms / 60000 % 60) ++ ":"
    ++ padded 2 (ms / 1000 % 60) ++ fraction ++ "Z"

/-- The seconds from one instant to another. -/
def secondsBetween (earlier later : Instant) : Float := Float.ofInt (later - earlier) / 1000

end Instant

end HardwareWatch
