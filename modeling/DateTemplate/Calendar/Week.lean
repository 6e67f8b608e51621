import DateTemplate.Calendar.Date

/-!
# Weeks

* `Date.weekOfYear`: the number of a date's week when the weeks of a year begin on a given day.
* `Date.startsInYear`: how many weeks have begun in a date's year up to the date.
* `Date.isoWeekYear`, `Date.isoWeek`: the ISO 8601 week. A week begins on Monday and belongs to
  the year that its Thursday is in.
-/

namespace DateTemplate.Date

/-- The day of the year on which the first week that begins on `start` begins. -/
def firstStart (d : Date) (start : Weekday) : Nat :=
  (7 - d.newYear.weekday.daysSince start) % 7 + 1

/-- The number of the week when weeks begin on `start`. The first week that begins in the year is
week 1, and the days before it are in week 0. -/
def weekOfYear (d : Date) (start : Weekday) : Nat :=
  if d.dayOfYear < d.firstStart start then 0
  else (d.dayOfYear - d.firstStart start) / 7 + 1

/-- How many of the days from the first of the year up to the date are `start`. -/
def startsInYear (d : Date) (start : Weekday) : Nat :=
  (List.range d.dayOfYear).countP fun n : Nat =>
    (ofDayNumber (Year.daysBefore d.year + n)).weekday = start

/-- The Thursday of the date's week, when weeks begin on Monday. -/
def thursday (d : Date) : Date :=
  ofDayNumber (d.dayNumber - d.weekday.index + Weekday.thursday.index)

/-- The year that the date's ISO week belongs to. -/
def isoWeekYear (d : Date) : Int := d.thursday.year

/-- The number of the date's ISO week in the year that it belongs to, from 1. -/
def isoWeek (d : Date) : Nat := (d.thursday.dayOfYear - 1) / 7 + 1

end DateTemplate.Date
