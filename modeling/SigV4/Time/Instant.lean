import SigV4.Time.Calendar

/-!
# Instants

An instant is a second, counted from the beginning of 1970 in days of 86400
seconds, and a number of nanoseconds in it. Counted so, a leap second has no
number of its own: it is written as a second that lasts two, so its nanoseconds
run from `10⁹` on. On the clocks of the world only the last second of a minute
ever lasts two, but nothing here depends on it, and any second may.

The range of the calendar and the length of a second are part of the type
(`SigV4.Instant`), so every instant has a date, a time of day and a text, and none
of the functions on instants can fail.
-/

namespace SigV4

/-- The nanoseconds of a second, and the nanoseconds at which a leap second
begins. -/
def nanosPerSecond : Nat := 1000000000

/-- **An instant**. -/
@[ext]
structure Instant where
  /-- The second, counted from the beginning of 1970. -/
  seconds : Int
  /-- The nanoseconds in the second; `10⁹` and more in a leap second. -/
  nanos : Nat
  /-- A second lasts one second, or two if it is followed by a leap second. -/
  nanos_lt : nanos < 2 * nanosPerSecond
  /-- No instant is before the year -262143. -/
  earliest : -8334601228800 ≤ seconds
  /-- No instant is after the year 262142. -/
  latest : seconds ≤ 8210266876799
deriving DecidableEq

namespace Instant

/-- The instant of a second and its nanoseconds, if there is one. -/
def ofParts? (seconds : Int) (nanos : Nat) : Option Instant :=
  if h : nanos < 2 * nanosPerSecond ∧ -8334601228800 ≤ seconds ∧ seconds ≤ 8210266876799 then
    some ⟨seconds, nanos, h.1, h.2.1, h.2.2⟩
  else none

/-- The beginning of 1970. -/
def epoch : Instant := ⟨0, 0, by decide, by decide, by decide⟩

/-! ### Date and time of day -/

/-- Whether an instant is in a leap second. -/
def IsLeap (t : Instant) : Prop := nanosPerSecond ≤ t.nanos

instance (t : Instant) : Decidable t.IsLeap :=
  inferInstanceAs (Decidable (_ ≤ _))

/-- The date of an instant. -/
def date (t : Instant) : Date := Date.ofDayNumber (t.seconds / 86400)

/-- The second of the day, not counting a leap second. -/
def secondOfDay (t : Instant) : Nat := (t.seconds % 86400).toNat

/-- The hour of the day. -/
def hour (t : Instant) : Nat := t.secondOfDay / 3600

/-- The minute of the hour. -/
def minute (t : Instant) : Nat := t.secondOfDay / 60 % 60

/-- The second of the minute, one more in a leap second: 60 at the end of a minute. -/
def second (t : Instant) : Nat := t.secondOfDay % 60 + t.nanos / nanosPerSecond

/-- The nanoseconds since the second, or the leap second, began. -/
def subsecond (t : Instant) : Nat := t.nanos % nanosPerSecond

/-- The instant with its nanoseconds dropped; a leap second stays one. -/
def truncate (t : Instant) : Instant where
  seconds := t.seconds
  nanos := t.nanos / nanosPerSecond * nanosPerSecond
  nanos_lt := Nat.lt_of_le_of_lt (Nat.div_mul_le_self ..) t.nanos_lt
  earliest := t.earliest
  latest := t.latest

/-! ### Comparison and difference -/

/-- Whether an instant is more than the given number of whole seconds after
another. -/
def isAfter (t : Instant) (start : Instant) (seconds : Int) : Bool :=
  start.seconds + seconds < t.seconds ||
    (start.seconds + seconds == t.seconds && start.nanos < t.nanos)

/-- How many seconds a leap second between two instants adds to the difference of
their times of day. It counts for the later of the two only where the earlier one
is in it. -/
def leapBetween (t u : Instant) : Int :=
  if t.secondOfDay > u.secondOfDay ∧ u.IsLeap then 1
  else if t.secondOfDay < u.secondOfDay ∧ t.IsLeap then -1
  else 0

/-- **The difference of two instants** in nanoseconds. -/
def nanosSince (t u : Instant) : Int :=
  (t.seconds - u.seconds + leapBetween t u) * nanosPerSecond + (t.nanos - u.nanos)

/-- The whole seconds in the difference of two instants, toward zero. -/
def secondsSince (t u : Instant) : Int :=
  (nanosSince t u).tdiv nanosPerSecond

end Instant

end SigV4
