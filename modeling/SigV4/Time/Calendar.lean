/-!
# The calendar

Days are numbered from 1 January 1970, and the Gregorian calendar is extended
without bound in both directions, year 0 included. Two functions pass between the
number of a day and its date:

* `SigV4.Date.dayNumber` counts: the days before the year, the days before the
  month, the day of the month;
* `SigV4.Date.ofDayNumber` searches: the year from the average length of a year,
  corrected by at most one, and then the month by walking through the lengths of
  the year's months.

The days before a year have a closed form because the leap years before it do
(`SigV4.Date.yearStart`), and that is the only arithmetic of the calendar; the
months are a table.
-/

namespace SigV4

/-- **A date** of the calendar: a year, a month counted from 1 and a day counted
from 1. -/
structure Date where
  /-- The year; year 0 is the one before year 1. -/
  year : Int
  /-- The month, counted from 1. -/
  month : Nat
  /-- The day of the month, counted from 1. -/
  day : Nat
deriving DecidableEq

namespace Date

/-! ### Years and months -/

/-- Whether a year has 366 days. -/
def IsLeap (year : Int) : Prop :=
  year % 4 = 0 ∧ (year % 100 ≠ 0 ∨ year % 400 = 0)

instance (year : Int) : Decidable (IsLeap year) :=
  inferInstanceAs (Decidable (_ ∧ _))

/-- The lengths of the months of a year. -/
def monthLengths (year : Int) : List Nat :=
  [31, if IsLeap year then 29 else 28, 31, 30, 31, 30, 31, 31, 30, 31, 30, 31]

/-- The number of the first day of a year: 365 days a year, and one for every leap
year before it. -/
def yearStart (year : Int) : Int :=
  365 * year + (year + 3) / 4 - (year + 99) / 100 + (year + 399) / 400 - 719528

/-- The year in which a day lies. 146097 days are 400 years, which places the day
within one year of the right one. -/
def yearOfDay (day : Int) : Int :=
  let guess := (day + 719528) * 400 / 146097
  if day < yearStart guess then guess - 1
  else if yearStart (guess + 1) ≤ day then guess + 1
  else guess

/-! ### Days -/

/-- Whether a date exists. -/
def IsValid (date : Date) : Prop :=
  1 ≤ date.month ∧ 1 ≤ date.day ∧ date.day ≤ (monthLengths date.year).getD (date.month - 1) 0

instance (date : Date) : Decidable date.IsValid :=
  inferInstanceAs (Decidable (_ ∧ _ ∧ _))

/-- **The number of a date's day.** -/
def dayNumber (date : Date) : Int :=
  let months : Nat := ((monthLengths date.year).take (date.month - 1)).foldr (· + ·) 0
  yearStart date.year + months + (date.day - 1)

/-- The month and the day of the month, both counted from 0, of a day counted from
0 in a run of months of the given lengths. -/
def locate : (lengths : List Nat) → (day : Nat) → Nat × Nat
  | [], day => (0, day)
  | length :: lengths, day =>
    if day < length then (0, day)
    else ((locate lengths (day - length)).1 + 1, (locate lengths (day - length)).2)

/-- **The date of a day.** -/
def ofDayNumber (day : Int) : Date :=
  let year := yearOfDay day
  let place := locate (monthLengths year) (day - yearStart year).toNat
  { year, month := place.1 + 1, day := place.2 + 1 }

end Date

end SigV4
