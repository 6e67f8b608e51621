import DateTemplate.Calendar.Month
import DateTemplate.Calendar.Weekday
import DateTemplate.Calendar.Year

/-!
# Dates

A date is a year and a day of that year. The month and the day of the month follow from them.

* `Date.ofCivil?`: the date with a given year, month and day, in the years from -9999 to 9999.
* `Date.month`, `Date.day`, `Date.weekday`: what is read off a date.
* `Date.dayNumber`, `Date.ofDayNumber`: dates as consecutive numbers, and back.
-/

namespace DateTemplate

/-- A day of the proleptic Gregorian calendar. -/
structure Date where
  /-- The year. Year 0 comes before year 1. -/
  year : Int
  /-- The place of the day in its year, from 1. -/
  dayOfYear : Nat
  one_le_dayOfYear : 1 ≤ dayOfYear
  dayOfYear_le : dayOfYear ≤ Year.length year
deriving DecidableEq

namespace Date

/-- The first and the last year that a date can be given in. -/
def firstYear : Int := -9999

@[inherit_doc firstYear] def lastYear : Int := 9999

/-- Whether the date is in a leap year. -/
def inLeapYear (d : Date) : Bool := Year.isLeap d.year

/-- The month. -/
def month (d : Date) : Month := .ofDayOfYear d.inLeapYear d.dayOfYear

/-- The day of the month, from 1. -/
def day (d : Date) : Nat := d.dayOfYear - d.month.daysBefore d.inLeapYear

/-- The number of days from January 1 of year 0. -/
def dayNumber (d : Date) : Int := Year.daysBefore d.year + d.dayOfYear - 1

/-- The date that comes `n` days after January 1 of year 0. -/
def ofDayNumber (n : Int) : Date where
  year := Year.ofDayNumber n
  dayOfYear := (n - Year.daysBefore (Year.ofDayNumber n)).toNat + 1
  one_le_dayOfYear := Nat.le_add_left _ _
  dayOfYear_le := by
    have h₁ := Year.lt_daysBefore_ofDayNumber_succ n
    have h₂ := Year.daysBefore_ofDayNumber_le n
    rw [Year.daysBefore_succ] at h₁
    omega

@[simp] theorem dayNumber_ofDayNumber (n : Int) : (ofDayNumber n).dayNumber = n := by
  have := Year.daysBefore_ofDayNumber_le n
  simp only [dayNumber, ofDayNumber]
  omega

@[simp] theorem ofDayNumber_dayNumber (d : Date) : ofDayNumber d.dayNumber = d := by
  obtain ⟨y, n, h₁, h₂⟩ := d
  have hy : Year.ofDayNumber (Date.dayNumber ⟨y, n, h₁, h₂⟩) = y := by
    rw [Year.ofDayNumber_eq_iff, Year.daysBefore_succ]
    simp only [dayNumber]
    omega
  simp only [ofDayNumber, hy, mk.injEq, true_and]
  simp only [dayNumber]
  omega

/-- The day of the week. January 1 of year 0 is a Saturday. -/
def weekday (d : Date) : Weekday :=
  .ofIndex ((d.dayNumber + Weekday.saturday.index) % 7).toNat

/-- The first day of the date's year. -/
def newYear (d : Date) : Date where
  year := d.year
  dayOfYear := 1
  one_le_dayOfYear := Nat.le_refl _
  dayOfYear_le := Year.length_pos _

/-- The date with the given year, month and day of the month. -/
def ofCivil? (year month day : Int) : Option Date := do
  guard (firstYear ≤ year ∧ year ≤ lastYear)
  let month ← Month.ofNumber? month.toNat
  if h : 1 ≤ day ∧ day ≤ month.length (Year.isLeap year) then
    some {
      year
      dayOfYear := month.daysBefore (Year.isLeap year) + day.toNat
      one_le_dayOfYear := by omega
      dayOfYear_le := by
        have : _ ≤ Year.length year := month.daysBefore_add_length_le (Year.isLeap year)
        omega }
  else none

end Date

end DateTemplate
