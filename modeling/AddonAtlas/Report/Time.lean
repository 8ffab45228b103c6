import AddonAtlas.Number.Shortest

/-!
# Times

The time at which a report is made is written as a date and a time of day, in universal time.
-/

namespace AddonAtlas.Report

/-- A day of the calendar. -/
structure Day where
  year : Int
  month : Nat
  day : Nat
  deriving DecidableEq, Repr

/-- The day that is so many days after the first of January 1970. Years are counted from March, in
cycles of four hundred years, so that a leap day is the last one of its year. -/
def Day.ofNumber (days : Int) : Day :=
  let shifted := days + 719468
  let cycle := shifted.fdiv 146097
  let inCycle := (shifted - cycle * 146097).toNat
  let year := (inCycle - inCycle / 1460 + inCycle / 36524 - inCycle / 146096) / 365
  let inYear := inCycle - (365 * year + year / 4 - year / 100)
  let month := (5 * inYear + 2) / 153
  let day := inYear - (153 * month + 2) / 5 + 1
  let month := if month < 10 then month + 3 else month - 9
  { year := year + cycle * 400 + (if month ≤ 2 then 1 else 0), month, day }

/-- A number with at least so many digits. -/
def padded (width n : Nat) : String :=
  let digits := Nat.toDigits 10 n
  .ofList (List.replicate (width - digits.length) '0' ++ digits)

/-- A time, given in microseconds since the start of 1970. Whole seconds have no fraction. -/
def timeText (microseconds : Nat) : String :=
  let seconds := microseconds / 1000000
  let fraction := microseconds % 1000000
  let day := Day.ofNumber (seconds / 86400 : Nat)
  let clock := seconds % 86400
  padded 4 day.year.toNat ++ "-" ++ padded 2 day.month ++ "-" ++ padded 2 day.day ++ "T" ++
    padded 2 (clock / 3600) ++ ":" ++ padded 2 (clock / 60 % 60) ++ ":" ++ padded 2 (clock % 60) ++
    (if fraction = 0 then "" else "." ++ padded 6 fraction) ++ "Z"

example : timeText 951782400000000 = "2000-02-29T00:00:00Z" := by decide +kernel

example : timeText 1704067200123456 = "2024-01-01T00:00:00.123456Z" := by decide +kernel

end AddonAtlas.Report
