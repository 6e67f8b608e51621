import DateTemplate.Instant

/-!
# Ranges of dates and times

* `Date.one_le_day`, `Date.day_le`: a day of the month is one from 1 to 31.
* `TimeOfDay.one_le_hour12`, `TimeOfDay.hour12_le`: an hour on a 12-hour clock.
* `Instant.firstYear_le_year`, `Instant.year_le_lastYear`: the years of instants are those that a
  date can be given in, whatever the offset.
-/

namespace DateTemplate

/-! ## Dates and times of day -/

namespace Date

theorem dayOfYear_le_lengthOf (d : Date) : d.dayOfYear ≤ Year.lengthOf d.inLeapYear :=
  d.dayOfYear_le

theorem dayOfYear_le_366 (d : Date) : d.dayOfYear ≤ 366 := by
  have hlen := d.dayOfYear_le_lengthOf
  unfold Year.lengthOf at hlen
  split at hlen <;> omega

/-- The day of the year lies within the days of the month. -/
theorem dayOfYear_bounds (d : Date) :
    d.month.daysBefore d.inLeapYear < d.dayOfYear ∧
      d.dayOfYear ≤ d.month.daysBefore d.inLeapYear + d.month.length d.inLeapYear :=
  (Month.ofDayOfYear_eq_iff d.one_le_dayOfYear d.dayOfYear_le_lengthOf d.month).1 rfl

theorem one_le_day (d : Date) : 1 ≤ d.day := by
  have := d.dayOfYear_bounds
  unfold day
  omega

theorem day_le (d : Date) : d.day ≤ 31 := by
  have hlen (leap : Bool) (m : Month) : m.length leap ≤ 31 := by
    cases leap <;> cases m <;> decide
  have := d.dayOfYear_bounds
  have := hlen d.inLeapYear d.month
  unfold day
  omega

end Date

namespace TimeOfDay

theorem one_le_hour12 (t : TimeOfDay) : 1 ≤ t.hour12 := by
  unfold hour12
  split <;> omega

theorem hour12_le (t : TimeOfDay) : t.hour12 ≤ 12 := by
  unfold hour12
  split <;> omega

@[simp] theorem hour_meridiem_hour (t : TimeOfDay) : t.meridiem.hour t.hour = t.hour := by
  have := t.hour_lt
  unfold meridiem
  split <;> simp only [Meridiem.hour] <;> omega

end TimeOfDay

/-! ## Instants -/

namespace Year

theorem daysBefore_le {y z : Int} (h : y ≤ z) : daysBefore y ≤ daysBefore z := by
  unfold daysBefore
  omega

theorem le_ofDayNumber {n y : Int} (h : daysBefore y ≤ n) : y ≤ ofDayNumber n := by
  have hlt := lt_daysBefore_ofDayNumber_succ n
  refine Int.not_lt.1 fun hy => ?_
  have := daysBefore_le (Int.add_one_le_of_lt hy)
  omega

theorem ofDayNumber_lt {n y : Int} (h : n < daysBefore y) : ofDayNumber n < y := by
  have hle := daysBefore_ofDayNumber_le n
  refine Int.not_le.1 fun hy => ?_
  have := daysBefore_le hy
  omega

end Year

namespace Instant

theorem localDay_bounds (z : Instant) :
    Year.daysBefore Date.firstYear ≤ z.localNanoseconds / 86400000000000 + Date.unixEpoch ∧
      z.localNanoseconds / 86400000000000 + Date.unixEpoch < Year.daysBefore (Date.lastYear + 1) := by
  have := z.first_le
  have := z.lt_last_succ
  have := z.offset.neg_limit_le
  have := z.offset.le_limit
  simp only [localNanoseconds, firstSecond, lastSecond, Date.unixEpoch, Date.firstYear,
    Date.lastYear, Year.daysBefore] at *
  omega

theorem firstYear_le_year (z : Instant) : Date.firstYear ≤ z.date.year :=
  Year.le_ofDayNumber z.localDay_bounds.1

theorem year_le_lastYear (z : Instant) : z.date.year ≤ Date.lastYear :=
  Int.le_of_lt_add_one (Year.ofDayNumber_lt z.localDay_bounds.2)

end Instant

end DateTemplate
