import SpaceMigration.Time.Timestamp

/-!
# Times as seconds since 1970

A system clock counts the seconds since the start of 1970 without leap seconds. Days are counted
from the first of March of the year 0, so that a leap day is the last day of its year; 400 years
have 146097 days.
-/

namespace SpaceMigration

/-- The date of the day with the given number, where the first of March of the year 0 is day 0. -/
def Date.ofDayNumber? (number : Nat) : Option Date :=
  let cycle := number / 146097
  let day := number % 146097
  let year := (day - day / 1460 + day / 36524 - day / 146096) / 365
  let ofYear := day - (365 * year + year / 4 - year / 100)
  let month := (5 * ofYear + 2) / 153
  let ofMonth := ofYear - (153 * month + 2) / 5 + 1
  if month < 10 then ofParts? (400 * cycle + year : Nat) (month + 3) ofMonth
  else ofParts? (400 * cycle + year + 1 : Nat) (month - 9) ofMonth

/-- The number of the first day of 1970. -/
def unixDay : Nat := 719468

/-- The time a number of nanoseconds after the start of 1970. -/
def Timestamp.ofUnixNanos? (nanos : Nat) : Option Timestamp := do
  let seconds := nanos / nanosPerSecond
  let date ← Date.ofDayNumber? (unixDay + seconds / 86400)
  let ofDay := seconds % 86400
  ofParts? date (ofDay / 3600) (ofDay / 60 % 60) (ofDay % 60) (nanos % nanosPerSecond)

end SpaceMigration
