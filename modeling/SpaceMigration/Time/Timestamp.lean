import SpaceMigration.Time.Date

/-!
# Timestamps

An instant in UTC: a date, a time of day, and nanoseconds. A leap second is the second 59 with a
nanosecond part of one second or more, so that it sorts between its neighbours.

A nanosecond part of one second or more at another second than 59 is left out. A clock shows no such
time and no text is read as one; it can only be made by setting the nanoseconds of an instant.
-/

namespace SpaceMigration

namespace Timestamp

/-- Nanoseconds in a second. -/
def nanosPerSecond : Nat := 1000000000

/-- Whether the parts are a time of day, with a leap second at the second 59 only. -/
def isTime (hour minute second nanos : Nat) : Bool :=
  hour < 24 && minute < 60 && second < 60 &&
    (nanos < nanosPerSecond || (second == 59 && nanos < 2 * nanosPerSecond))

end Timestamp

/-- An instant in UTC. -/
structure Timestamp where
  date : Date
  hour : Nat
  minute : Nat
  second : Nat
  nanos : Nat
  valid : Timestamp.isTime hour minute second nanos = true
deriving DecidableEq

namespace Timestamp

/-- The position of a timestamp on a line: every part is a digit below its base, so positions
compare as timestamps do. -/
def rank (t : Timestamp) : Int :=
  (((((t.date.year * 13 + t.date.month) * 32 + t.date.day) * 24 + t.hour) * 60 + t.minute) * 60 +
    t.second) * (2 * nanosPerSecond) + t.nanos

instance : LE Timestamp := ⟨fun a b => a.rank ≤ b.rank⟩

instance (a b : Timestamp) : Decidable (a ≤ b) := inferInstanceAs (Decidable (a.rank ≤ b.rank))

/-- The later of two timestamps, and the first of them when they are equal. -/
def latest (a b : Timestamp) : Timestamp :=
  if b ≤ a then a else b

/-- Midnight at the start of 1970. -/
def epoch : Timestamp :=
  ⟨⟨1970, 1, 1, by decide⟩, 0, 0, 0, 0, by decide⟩

/-- The timestamp with the given parts, if they are a time of day. -/
def ofParts? (date : Date) (hour minute second nanos : Nat) : Option Timestamp :=
  if h : isTime hour minute second nanos = true then some ⟨date, hour, minute, second, nanos, h⟩
  else none

/-- The timestamp of a local time whose clock is `offset` minutes ahead of UTC, for an offset of
less than a day. -/
def ofLocal? (date : Date) (hour minute second nanos : Nat) (offset : Int) : Option Timestamp := do
  let minutes := (hour * 60 + minute : Nat) - offset
  let date ←
    if minutes < 0 then date.previous?
    else if minutes < 1440 then some date
    else date.next?
  let ofDay := (minutes % 1440).toNat
  ofParts? date (ofDay / 60) (ofDay % 60) second nanos

theorem le_latest_left (a b : Timestamp) : a ≤ latest a b := by
  unfold latest
  split
  · exact Int.le_refl _
  · next h => exact Int.le_of_not_le h

theorem le_latest_right (a b : Timestamp) : b ≤ latest a b := by
  unfold latest
  split
  · assumption
  · exact Int.le_refl _

end Timestamp

end SpaceMigration
