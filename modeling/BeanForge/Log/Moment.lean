import BeanForge.Text.Decimal

/-!
# Moments

Moments in universal time, down to the millionth of a second, and the two texts
that log lines show.
-/

namespace BeanForge.Log

open Text

/-- A moment in universal time. -/
structure Moment where
  year : Nat
  month : Nat
  day : Nat
  hour : Nat
  minute : Nat
  second : Nat
  micro : Nat := 0
  deriving Repr, DecidableEq

namespace Moment

def padded (width n : Nat) : String :=
  let digits := natDigits n
  String.ofList (List.replicate (width - digits.length) '0' ++ digits)

def date (m : Moment) : String :=
  padded 4 m.year ++ "-" ++ padded 2 m.month ++ "-" ++ padded 2 m.day

def time (m : Moment) : String :=
  padded 2 m.hour ++ ":" ++ padded 2 m.minute ++ ":" ++ padded 2 m.second

/-- Fractions of a second are told when there are some. -/
def exact (m : Moment) : String :=
  m.date ++ "T" ++ m.time ++ (if m.micro = 0 then "" else "." ++ padded 6 m.micro) ++ "+00:00"

def readable (m : Moment) : String :=
  m.date ++ " " ++ m.time

/-- The year, month and day that come a number of days after the first day of 1970. Years are
counted from March on, so that a leap day is the last of its year. -/
def dateOfDays (days : Nat) : Nat × Nat × Nat :=
  let shifted := days + 719468
  let dayOfEra := shifted % 146097
  let yearOfEra := (dayOfEra - dayOfEra / 1460 + dayOfEra / 36524 - dayOfEra / 146096) / 365
  let dayOfYear := dayOfEra - (365 * yearOfEra + yearOfEra / 4 - yearOfEra / 100)
  let monthFromMarch := (5 * dayOfYear + 2) / 153
  let day := dayOfYear - (153 * monthFromMarch + 2) / 5 + 1
  let month := if monthFromMarch < 10 then monthFromMarch + 3 else monthFromMarch - 9
  let year := yearOfEra + 400 * (shifted / 146097) + (if month ≤ 2 then 1 else 0)
  (year, month, day)

/-- The moment that comes a number of seconds after the beginning of 1970. -/
def ofSeconds (seconds micro : Nat) : Moment :=
  let (year, month, day) := dateOfDays (seconds / 86400)
  let rest := seconds % 86400
  ⟨year, month, day, rest / 3600, rest % 3600 / 60, rest % 60, micro⟩

example : ofSeconds 946782245 6 = ⟨2000, 1, 2, 3, 4, 5, 6⟩ := by decide

example : dateOfDays 19782 = (2024, 2, 29) := by decide

end Moment

end BeanForge.Log
