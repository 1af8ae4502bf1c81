import SigV4.Time.Calendar

/-!
# Every day has a date of its own

A day is looked up in the calendar by a search, and a date is counted by a formula, and nothing
in the one is made from the other. This file shows that the search finds what the formula
counts: the date of a day exists, and its number is that of the day
(`SigV4.Date.isValid_ofDayNumber`, `SigV4.Date.dayNumber_ofDayNumber`). So no two days have the
same date, before the year 0 as little as after the year 9999.

The search has two halves. The year is guessed from the average length of a year, and the guess
is off by one year at most, so that one correction is enough (`SigV4.Date.yearOfDay_bounds`).
Within the year a walk through the lengths of its months stops at the month in which the day
lies (`SigV4.Date.locate_bounds`), and it does not run out of months, since together they are
as long as the year (`SigV4.Date.yearStart_succ`).
-/

namespace SigV4

namespace Date

/-! ### Years -/

/-- The days of months together. -/
def total (lengths : List Nat) : Nat := lengths.foldr (· + ·) 0

theorem total_cons (length : Nat) (lengths : List Nat) :
    total (length :: lengths) = length + total lengths :=
  rfl

theorem total_monthLengths (year : Int) :
    total (monthLengths year) = if IsLeap year then 366 else 365 := by
  unfold monthLengths
  split <;> rfl

/-- **A year is as long as its months together.** -/
theorem yearStart_succ (year : Int) :
    yearStart (year + 1) = yearStart year + total (monthLengths year) := by
  rw [total_monthLengths]
  unfold yearStart
  split
  · next hleap =>
    unfold IsLeap at hleap
    omega
  · next hcommon =>
    unfold IsLeap at hcommon
    omega

/-- **The year of a day** is the one that has begun when the day comes, and not ended. -/
theorem yearOfDay_bounds (day : Int) :
    yearStart (yearOfDay day) ≤ day ∧ day < yearStart (yearOfDay day + 1) := by
  unfold yearOfDay
  dsimp only
  split
  · next hbefore =>
    -- The year before the guess has begun, as the guess is off by one at most.
    rw [Int.sub_add_cancel]
    refine ⟨?_, hbefore⟩
    unfold yearStart
    omega
  · next hbegun =>
    split
    · next hover =>
      refine ⟨hover, ?_⟩
      unfold yearStart
      omega
    · next hrunning => exact ⟨Int.not_lt.mp hbegun, Int.not_le.mp hrunning⟩

/-! ### Months -/

/-- **A walk through months** that are long enough together stops at one of them, at a day that
it has, and the days before add up. -/
theorem locate_bounds {lengths : List Nat} {day : Nat} (h : day < total lengths) :
    (locate lengths day).2 < lengths.getD (locate lengths day).1 0 ∧
      total (lengths.take (locate lengths day).1) + (locate lengths day).2 = day := by
  induction lengths generalizing day with
  | nil => cases h
  | cons length lengths ih =>
    rw [locate]
    split
    · next hin => exact ⟨hin, Nat.zero_add day⟩
    · next hbehind =>
      rw [total_cons] at h
      have hrest : day - length < total lengths := by omega
      obtain ⟨hday, hsum⟩ := ih hrest
      refine ⟨hday, ?_⟩
      rw [List.take_succ_cons, total_cons]
      omega

/-! ### Days -/

/-- A day is within the months of its year. -/
theorem toNat_sub_yearStart_lt (day : Int) :
    (day - yearStart (yearOfDay day)).toNat < total (monthLengths (yearOfDay day)) := by
  obtain ⟨hbegun, hrunning⟩ := yearOfDay_bounds day
  rw [yearStart_succ] at hrunning
  omega

/-- **The date of a day exists.** -/
theorem isValid_ofDayNumber (day : Int) : (ofDayNumber day).IsValid := by
  obtain ⟨hday, -⟩ := locate_bounds (toNat_sub_yearStart_lt day)
  exact ⟨Nat.le_add_left 1 _, Nat.le_add_left 1 _, hday⟩

/-- **The date of a day has the number of the day.** -/
theorem dayNumber_ofDayNumber (day : Int) : (ofDayNumber day).dayNumber = day := by
  obtain ⟨-, hsum⟩ := locate_bounds (toNat_sub_yearStart_lt day)
  obtain ⟨hbegun, -⟩ := yearOfDay_bounds day
  rw [total] at hsum
  simp only [dayNumber, ofDayNumber, Nat.add_sub_cancel]
  omega

theorem ofDayNumber_injective : Function.Injective ofDayNumber :=
  Function.LeftInverse.injective dayNumber_ofDayNumber

/-- A date that exists is in one of twelve months, and on one of at most thirty-one days. -/
theorem le_of_isValid {date : Date} (h : date.IsValid) : date.month ≤ 12 ∧ date.day ≤ 31 := by
  obtain ⟨hmonth, hday, hle⟩ := h
  rw [List.getD_eq_getElem?_getD] at hle
  have hlengths : ∀ length ∈ monthLengths date.year, length ≤ 31 := by
    unfold monthLengths
    split <;> decide
  rcases Nat.lt_or_ge (date.month - 1) (monthLengths date.year).length with hin | hout
  · rw [List.getElem?_eq_getElem hin, Option.getD_some] at hle
    have hlast : date.month - 1 < 12 := hin
    exact ⟨by omega, Nat.le_trans hle (hlengths _ (List.getElem_mem hin))⟩
  · rw [List.getElem?_eq_none hout, Option.getD_none] at hle
    omega

end Date

end SigV4
