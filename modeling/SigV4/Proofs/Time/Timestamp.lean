import SigV4.Proofs.Time.Calendar
import SigV4.Time.Timestamp

/-!
# A timestamp names one second

A timestamp leaves out the fraction of a second and nothing else: two instants have the same
timestamp exactly if they show the same second (`SigV4.Instant.timestamp_eq_iff`), where a leap
second is a second of its own. So a timestamp names an instant, the beginning of a second, and
there is no other that it could name (`SigV4.Instant.isNamedBy_iff`).

A timestamp is taken apart from its end. What stands behind the year has a fixed width, and so
the year is what is left, however many digits it has and whether there is a sign in front of
them or not.

## Where two seconds are shown alike

A leap second is shown as the second 60 of its minute, and only the last second of a minute has
one behind it for which that number is free (`SigV4.Instant.IsCivil`). A leap second behind any
other is shown with the number of the next second, so nobody can tell the two apart. The second
that is shown (`SigV4.Instant.shown`) is then the next one, and in all other cases the second in
which the instant is.
-/

namespace SigV4

/-! ### Numbers of a given width -/

namespace Decimal

theorem padded_injective (width : Nat) : Function.Injective (padded width) :=
  Function.LeftInverse.injective (value_padded width)

/-- A number that fits a width is written in that width. -/
theorem length_padded {width n : Nat} (h : (Nat.toDigits 10 n).length ≤ width) :
    (padded width n).length = width := by
  simp only [padded, List.length_append, List.length_replicate]
  omega

theorem length_padded_two {n : Nat} (h : n < 100) : (padded 2 n).length = 2 :=
  length_padded ((Nat.length_toDigits_le_iff (by decide) (by decide)).mpr h)

end Decimal

/-! ### Dates -/

namespace Date

/-- No number begins with a sign. -/
theorem cons_ne_padded {c : Char} (h : c.isDigit = false) (digits : List Char) (width n : Nat) :
    c :: digits ≠ Decimal.padded width n := by
  intro heq
  have hdigit := Decimal.isDigit_of_mem_padded (heq ▸ List.mem_cons_self)
  rw [h] at hdigit
  cases hdigit

/-- The sign in front of a year, if it has one. -/
def sign (year : Int) : Char := if year < 0 then '-' else '+'

theorem isDigit_sign (year : Int) : (sign year).isDigit = false := by
  unfold sign
  split <;> decide

theorem sign_eq_sign_iff {year year' : Int} :
    sign year = sign year' ↔ (year < 0 ↔ year' < 0) := by
  unfold sign
  by_cases hneg : year < 0 <;> by_cases hneg' : year' < 0 <;> simp [hneg, hneg']

theorem yearDigits_of_unsigned {year : Int} (h : 0 ≤ year ∧ year ≤ 9999) :
    yearDigits year = Decimal.padded 4 year.toNat :=
  if_pos h

theorem yearDigits_of_signed {year : Int} (h : ¬(0 ≤ year ∧ year ≤ 9999)) :
    yearDigits year = sign year :: Decimal.padded 4 year.natAbs :=
  if_neg h

/-- **The digits of a year tell the year**, together with its sign if it has one. -/
theorem yearDigits_injective : Function.Injective yearDigits := by
  intro year year' h
  by_cases hyear : 0 ≤ year ∧ year ≤ 9999 <;> by_cases hyear' : 0 ≤ year' ∧ year' ≤ 9999
  · rw [yearDigits_of_unsigned hyear, yearDigits_of_unsigned hyear'] at h
    have hnat := Decimal.padded_injective 4 h
    omega
  · rw [yearDigits_of_unsigned hyear, yearDigits_of_signed hyear'] at h
    exact absurd h.symm (cons_ne_padded (isDigit_sign year') _ _ _)
  · rw [yearDigits_of_signed hyear, yearDigits_of_unsigned hyear'] at h
    exact absurd h (cons_ne_padded (isDigit_sign year) _ _ _)
  · rw [yearDigits_of_signed hyear, yearDigits_of_signed hyear'] at h
    obtain ⟨hsign, hdigits⟩ := List.cons.inj h
    have hnegative := sign_eq_sign_iff.mp hsign
    have hnat := Decimal.padded_injective 4 hdigits
    omega

/-- **A date is written with digits**, and a sign if there is one. -/
theorem isDigit_or_eq_sign_of_mem_basic {date : Date} {c : Char} (h : c ∈ date.basic) :
    c.isDigit = true ∨ c = sign date.year := by
  rw [basic, List.mem_append, List.mem_append] at h
  rcases h with (hyear | hmonth) | hday
  · by_cases hunsigned : 0 ≤ date.year ∧ date.year ≤ 9999
    · rw [yearDigits_of_unsigned hunsigned] at hyear
      exact .inl (Decimal.isDigit_of_mem_padded hyear)
    · rw [yearDigits_of_signed hunsigned, List.mem_cons] at hyear
      exact hyear.symm.imp_left Decimal.isDigit_of_mem_padded
  · exact .inl (Decimal.isDigit_of_mem_padded hmonth)
  · exact .inl (Decimal.isDigit_of_mem_padded hday)

/-- **The basic format of a date tells the date**, if the date exists. -/
theorem eq_of_basic_eq {date date' : Date} (hvalid : date.IsValid) (hvalid' : date'.IsValid)
    (h : date.basic = date'.basic) : date = date' := by
  obtain ⟨hmonth, hday⟩ := le_of_isValid hvalid
  obtain ⟨hmonth', hday'⟩ := le_of_isValid hvalid'
  obtain ⟨hfront, hdays⟩ := List.append_inj' h (by
    rw [Decimal.length_padded_two (by omega), Decimal.length_padded_two (by omega)])
  obtain ⟨hyears, hmonths⟩ := List.append_inj' hfront (by
    rw [Decimal.length_padded_two (by omega), Decimal.length_padded_two (by omega)])
  obtain ⟨year, month, day⟩ := date
  obtain ⟨year', month', day'⟩ := date'
  obtain rfl : year = year' := yearDigits_injective hyears
  obtain rfl : month = month' := Decimal.padded_injective 2 hmonths
  obtain rfl : day = day' := Decimal.padded_injective 2 hdays
  rfl

end Date

/-! ### Instants -/

namespace Instant

theorem isValid_date (t : Instant) : t.date.IsValid :=
  Date.isValid_ofDayNumber _

theorem secondOfDay_lt (t : Instant) : t.secondOfDay < 86400 := by
  unfold secondOfDay
  omega

/-- Hour, minute and second have two digits at most. -/
theorem time_lt (t : Instant) : t.hour < 100 ∧ t.minute < 100 ∧ t.second < 100 := by
  have hday := t.secondOfDay_lt
  have hnanos := t.nanos_lt
  unfold hour minute second nanosPerSecond at *
  omega

/-! ### The second that is shown -/

/-- **Whether the second of an instant is one of the calendar**: if it is a leap second, it ends a
minute. -/
def IsCivil (t : Instant) : Prop := t.IsLeap → t.seconds % 60 = 59

instance (t : Instant) : Decidable t.IsCivil :=
  inferInstanceAs (Decidable (_ → _))

theorem isCivil_of_not_isLeap {t : Instant} (h : ¬t.IsLeap) : t.IsCivil :=
  fun hleap => absurd hleap h

/-- The last second of all is the last of its minute. -/
theorem seconds_lt_of_not_isCivil {t : Instant} (h : ¬t.IsCivil) : t.seconds < 8210266876799 := by
  obtain ⟨-, hlast⟩ := Classical.not_imp.mp h
  have hlatest := t.latest
  omega

/-- **The second that is shown** of an instant: the one in which it is, or the next one if it is in
a leap second that does not end a minute. -/
def shown (t : Instant) : Instant :=
  if h : t.IsCivil then t.truncate
  else
    { seconds := t.seconds + 1
      nanos := 0
      nanos_lt := epoch.nanos_lt
      earliest := Int.le_trans t.earliest (Int.le_add_one (Int.le_refl _))
      latest := seconds_lt_of_not_isCivil h }

theorem shown_of_isCivil {t : Instant} (h : t.IsCivil) : t.shown = t.truncate :=
  dif_pos h

theorem shown_of_not_isCivil {t : Instant} (h : ¬t.IsCivil) :
    t.shown.seconds = t.seconds + 1 ∧ t.shown.nanos = 0 := by
  rw [shown, dif_neg h]
  exact ⟨rfl, rfl⟩

/-- Dropping the fraction of a leap second leaves a leap second. -/
theorem isLeap_truncate (t : Instant) : t.truncate.IsLeap ↔ t.IsLeap := by
  simp only [IsLeap, truncate, nanosPerSecond]
  omega

/-- What is shown is the beginning of a second, and one of the calendar. -/
theorem isCivil_shown (t : Instant) : t.shown.subsecond = 0 ∧ t.shown.IsCivil := by
  by_cases h : t.IsCivil
  · rw [shown_of_isCivil h]
    exact ⟨Nat.mul_mod_left _ _, fun hleap => h (t.isLeap_truncate.mp hleap)⟩
  · obtain ⟨-, hnanos⟩ := shown_of_not_isCivil h
    refine ⟨by rw [subsecond, hnanos]; rfl, isCivil_of_not_isLeap ?_⟩
    rw [IsLeap, hnanos]
    decide

/-- **The parts of the second that is shown** are those of its date and its time of day, where the
second 60 is counted as the second before it, with the nanoseconds of a leap second. -/
theorem parts_shown (t : Instant) :
    t.shown.seconds =
        t.seconds / 86400 * 86400 + t.hour * 3600 + t.minute * 60 + min t.second 59 ∧
      t.shown.nanos = if t.second = 60 then nanosPerSecond else 0 := by
  have hnanos := t.nanos_lt
  by_cases h : t.IsCivil
  · rw [shown_of_isCivil h]
    unfold IsCivil IsLeap at h
    unfold truncate hour minute second secondOfDay nanosPerSecond at *
    dsimp only
    by_cases hleap : 1000000000 ≤ t.nanos
    · have hlast := h hleap
      rw [if_pos (by omega)]
      omega
    · rw [if_neg (by omega)]
      omega
  · obtain ⟨hseconds, hzero⟩ := shown_of_not_isCivil h
    obtain ⟨hleap, hlast⟩ := Classical.not_imp.mp h
    rw [hseconds, hzero]
    unfold IsLeap at hleap
    unfold hour minute second secondOfDay nanosPerSecond at *
    rw [if_neg (by omega)]
    omega

/-- **Instants with the same date and the same time of day** show the same second. -/
theorem shown_eq_of_civil {t u : Instant} (hdate : t.date = u.date) (hhour : t.hour = u.hour)
    (hminute : t.minute = u.minute) (hsecond : t.second = u.second) : t.shown = u.shown := by
  have hday : t.seconds / 86400 = u.seconds / 86400 := Date.ofDayNumber_injective hdate
  obtain ⟨hseconds, hnanos⟩ := t.parts_shown
  obtain ⟨hseconds', hnanos'⟩ := u.parts_shown
  ext
  · rw [hseconds, hseconds', hday, hhour, hminute, hsecond]
  · rw [hnanos, hnanos', hsecond]

/-- What is shown has the date and the time of day of the instant. -/
theorem civil_shown (t : Instant) :
    t.shown.date = t.date ∧ t.shown.hour = t.hour ∧ t.shown.minute = t.minute ∧
      t.shown.second = t.second := by
  by_cases h : t.IsCivil
  · rw [shown_of_isCivil h]
    refine ⟨rfl, rfl, rfl, ?_⟩
    rw [second, second, truncate, Nat.mul_div_cancel _ (by decide)]
    rfl
  · obtain ⟨hseconds, hzero⟩ := shown_of_not_isCivil h
    obtain ⟨hleap, hlast⟩ := Classical.not_imp.mp h
    have hnanos := t.nanos_lt
    -- The next second is in the same minute, and so on the same day.
    have hday : (t.seconds + 1) / 86400 = t.seconds / 86400 := by omega
    refine ⟨by rw [date, date, hseconds, hday], ?_⟩
    unfold IsLeap at hleap
    unfold hour minute second secondOfDay nanosPerSecond at *
    rw [hseconds, hzero]
    omega

/-! ### Timestamps -/

/-- **The time of day in basic format tells the time of day.** -/
theorem eq_of_timeOfDay_eq {t u : Instant} (h : t.timeOfDay = u.timeOfDay) :
    t.hour = u.hour ∧ t.minute = u.minute ∧ t.second = u.second := by
  obtain ⟨-, hminute, hsecond⟩ := t.time_lt
  obtain ⟨-, hminute', hsecond'⟩ := u.time_lt
  obtain ⟨hfront, hseconds⟩ := List.append_inj' h (by
    rw [Decimal.length_padded_two hsecond, Decimal.length_padded_two hsecond'])
  obtain ⟨hhours, hminutes⟩ := List.append_inj' hfront (by
    rw [Decimal.length_padded_two hminute, Decimal.length_padded_two hminute'])
  exact ⟨Decimal.padded_injective 2 hhours, Decimal.padded_injective 2 hminutes,
    Decimal.padded_injective 2 hseconds⟩

theorem isDigit_of_mem_timeOfDay {t : Instant} {c : Char} (h : c ∈ t.timeOfDay) :
    c.isDigit = true := by
  rw [timeOfDay, List.mem_append, List.mem_append] at h
  rcases h with (hhour | hminute) | hsecond
  · exact Decimal.isDigit_of_mem_padded hhour
  · exact Decimal.isDigit_of_mem_padded hminute
  · exact Decimal.isDigit_of_mem_padded hsecond

theorem length_timeOfDay (t : Instant) : t.timeOfDay.length = 6 := by
  obtain ⟨hhour, hminute, hsecond⟩ := t.time_lt
  rw [timeOfDay, List.length_append, List.length_append, Decimal.length_padded_two hhour,
    Decimal.length_padded_two hminute, Decimal.length_padded_two hsecond]

/-- The timestamp is that of the second that is shown. -/
theorem timestamp_shown (t : Instant) : t.shown.timestamp = t.timestamp := by
  obtain ⟨hdate, hhour, hminute, hsecond⟩ := t.civil_shown
  rw [timestamp, timestamp, timeOfDay, timeOfDay, hdate, hhour, hminute, hsecond]

/-- **Two instants have the same timestamp** exactly if they show the same second. -/
theorem timestamp_eq_iff {t u : Instant} : t.timestamp = u.timestamp ↔ t.shown = u.shown := by
  constructor
  · intro h
    have hchars := String.ofList_injective h
    rw [List.append_assoc, List.append_assoc] at hchars
    obtain ⟨hdates, htimes⟩ := List.append_inj' hchars (by
      simp only [List.cons_append, List.length_cons, List.length_append, length_timeOfDay])
    obtain ⟨htime, -⟩ := List.append_inj' (List.cons.inj htimes).2 rfl
    obtain ⟨hhour, hminute, hsecond⟩ := eq_of_timeOfDay_eq htime
    exact shown_eq_of_civil
      (Date.eq_of_basic_eq t.isValid_date u.isValid_date hdates) hhour hminute hsecond
  · intro h
    rw [← timestamp_shown, h, timestamp_shown]

/-! ### What a timestamp names -/

/-- **Whether a timestamp names an instant**: it is the beginning of the second of the calendar
with this timestamp. -/
def IsNamedBy (t : Instant) (text : String) : Prop :=
  (t.subsecond = 0 ∧ t.IsCivil) ∧ t.timestamp = text

theorem truncate_eq_self {t : Instant} (h : t.subsecond = 0) : t.truncate = t := by
  ext
  · rfl
  · exact Nat.div_mul_cancel (Nat.dvd_of_mod_eq_zero h)

/-- **The timestamp of an instant** names the second that is shown of it, and nothing else. -/
theorem isNamedBy_iff {t u : Instant} : u.IsNamedBy t.timestamp ↔ u = t.shown := by
  constructor
  · rintro ⟨⟨hwhole, hcivil⟩, htext⟩
    rw [← truncate_eq_self hwhole, ← shown_of_isCivil hcivil]
    exact timestamp_eq_iff.mp htext
  · rintro rfl
    exact ⟨t.isCivil_shown, t.timestamp_shown⟩

end Instant

end SigV4
