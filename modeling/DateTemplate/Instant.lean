import DateTemplate.Calendar.Date
import DateTemplate.Clock
import DateTemplate.Offset

/-!
# Instants

An instant is a point in time together with the offset that it is told at, and perhaps an
abbreviation for the time zone.

* `Instant.ofCivil?`, `Instant.ofUnix?`: the instant of a local date and time, and of a count from
  the start of 1970 in UTC.
* `Instant.date`, `Instant.time`: the local date and time. `date_ofCivil?` and `time_ofCivil?` say
  that an instant tells the date and the time that it was made from.
* `Instant.unixSeconds`: the seconds since the start of 1970.
-/

namespace DateTemplate

/-- The first second that an instant can be in, counted from the start of 1970 in UTC. -/
def Instant.firstSecond : Int := -377705023201

/-- The last second that an instant can be in, counted from the start of 1970 in UTC. -/
def Instant.lastSecond : Int := 253402207200

/-- A point in time, told at a fixed offset. -/
structure Instant where
  /-- The nanoseconds since the start of 1970 in UTC. -/
  nanoseconds : Int
  /-- The offset that the instant is told at. -/
  offset : Offset
  /-- The abbreviation of the time zone, if it has one. -/
  abbreviation : Option String
  first_le : Instant.firstSecond * 1000000000 ≤ nanoseconds
  lt_last_succ : nanoseconds < (Instant.lastSecond + 1) * 1000000000
deriving DecidableEq

/-- The number of January 1 of 1970, counted from January 1 of year 0. -/
def Date.unixEpoch : Int := 719528

namespace Instant

/-- The instant at a number of nanoseconds since the start of 1970 in UTC, if it is in range. -/
def ofNanoseconds? (n : Int) (offset : Offset) (abbreviation : Option String) : Option Instant :=
  if h : firstSecond * 1000000000 ≤ n ∧ n < (lastSecond + 1) * 1000000000 then
    some ⟨n, offset, abbreviation, h.1, h.2⟩
  else none

/-- The instant at a number of seconds since the start of 1970 in UTC, plus less than one second in
nanoseconds, which may be negative. -/
def ofUnix? (seconds nanoseconds : Int) (offset : Offset) (abbreviation : Option String) :
    Option Instant := do
  guard (firstSecond ≤ seconds ∧ seconds ≤ lastSecond ∧ nanoseconds.natAbs < 1000000000)
  ofNanoseconds? (seconds * 1000000000 + nanoseconds) offset abbreviation

/-- The instant at which the local date and time are the given ones. -/
def ofCivil? (date : Date) (time : TimeOfDay) (offset : Offset) (abbreviation : Option String) :
    Option Instant :=
  ofNanoseconds? ((date.dayNumber - Date.unixEpoch) * 86400000000000 + time.nanosecondOfDay -
    offset.seconds * 1000000000) offset abbreviation

/-- The nanoseconds from the start of 1970 to the local date and time. -/
def localNanoseconds (z : Instant) : Int := z.nanoseconds + z.offset.seconds * 1000000000

/-- The local date. -/
def date (z : Instant) : Date :=
  .ofDayNumber (z.localNanoseconds / 86400000000000 + Date.unixEpoch)

/-- The local time of day. -/
def time (z : Instant) : TimeOfDay :=
  .ofNanoseconds (z.localNanoseconds % 86400000000000).toNat

/-- The seconds since the start of 1970 in UTC, with any fraction dropped. -/
def unixSeconds (z : Instant) : Int := z.nanoseconds.tdiv 1000000000

theorem nanosecondOfDay_time (z : Instant) :
    (z.time.nanosecondOfDay : Int) = z.localNanoseconds % 86400000000000 := by
  unfold time
  rw [TimeOfDay.nanosecondOfDay_ofNanoseconds] <;> omega

/-- The local date and time are as far from the start of 1970 as the instant is, at its offset. -/
theorem localNanoseconds_eq (z : Instant) :
    z.localNanoseconds =
      (z.date.dayNumber - Date.unixEpoch) * 86400000000000 + z.time.nanosecondOfDay := by
  rw [nanosecondOfDay_time, date, Date.dayNumber_ofDayNumber]
  omega

private theorem localNanoseconds_ofCivil? {d : Date} {t : TimeOfDay} {o : Offset}
    {a : Option String} {z : Instant} (h : ofCivil? d t o a = some z) :
    z.localNanoseconds =
      (d.dayNumber - Date.unixEpoch) * 86400000000000 + t.nanosecondOfDay := by
  unfold ofCivil? ofNanoseconds? at h
  split at h
  · cases h
    simp only [localNanoseconds]
    omega
  · cases h

theorem date_ofCivil? {d : Date} {t : TimeOfDay} {o : Offset} {a : Option String} {z : Instant}
    (h : ofCivil? d t o a = some z) : z.date = d := by
  have := t.nanosecondOfDay_lt
  rw [date, localNanoseconds_ofCivil? h, ← d.ofDayNumber_dayNumber]
  congr 1
  rw [Date.ofDayNumber_dayNumber]
  omega

theorem time_ofCivil? {d : Date} {t : TimeOfDay} {o : Offset} {a : Option String} {z : Instant}
    (h : ofCivil? d t o a = some z) : z.time = t := by
  have := t.nanosecondOfDay_lt
  rw [time, localNanoseconds_ofCivil? h, ← t.ofNanoseconds_nanosecondOfDay]
  congr 1
  rw [TimeOfDay.ofNanoseconds_nanosecondOfDay]
  omega

end Instant

end DateTemplate
