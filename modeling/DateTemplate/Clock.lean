/-!
# Times of day

* `TimeOfDay`: hours, minutes, seconds and nanoseconds of a day of 24 hours.
* `TimeOfDay.nanosecondOfDay`, `TimeOfDay.ofNanoseconds`: the same as one number, and back.
* `TimeOfDay.hour12`, `TimeOfDay.meridiem`: the hour the way a 12-hour clock tells it, and
  `Meridiem.hour` for the way back.
-/

namespace DateTemplate

/-- A half of the day on a 12-hour clock. -/
inductive Meridiem where
  /-- Before noon. -/
  | am
  /-- From noon on. -/
  | pm
deriving DecidableEq

/-- The two halves of the day. -/
def Meridiem.all : List Meridiem := [.am, .pm]

/-- The hour from 0 to 23 that a 12-hour clock means. Only the hour modulo 12 counts. -/
def Meridiem.hour (m : Meridiem) (n : Nat) : Nat :=
  match m with
  | am => n % 12
  | pm => n % 12 + 12

/-- A time of a day without leap seconds. -/
structure TimeOfDay where
  /-- The hour, from 0 to 23. -/
  hour : Nat
  /-- The minute, from 0 to 59. -/
  minute : Nat
  /-- The second, from 0 to 59. -/
  second : Nat
  /-- The nanosecond of the second. -/
  nanosecond : Nat
  hour_lt : hour < 24
  minute_lt : minute < 60
  second_lt : second < 60
  nanosecond_lt : nanosecond < 1000000000
deriving DecidableEq

namespace TimeOfDay

/-- The time with the given parts, if each is in its range. -/
def ofClock? (hour minute second nanosecond : Int) : Option TimeOfDay :=
  if h : (0 ≤ hour ∧ hour < 24) ∧ (0 ≤ minute ∧ minute < 60) ∧ (0 ≤ second ∧ second < 60) ∧
      (0 ≤ nanosecond ∧ nanosecond < 1000000000) then
    some {
      hour := hour.toNat
      minute := minute.toNat
      second := second.toNat
      nanosecond := nanosecond.toNat
      hour_lt := by omega
      minute_lt := by omega
      second_lt := by omega
      nanosecond_lt := by omega }
  else none

/-- The number of whole seconds since midnight. -/
def secondOfDay (t : TimeOfDay) : Nat := t.hour * 3600 + t.minute * 60 + t.second

/-- The number of nanoseconds since midnight. -/
def nanosecondOfDay (t : TimeOfDay) : Nat := t.secondOfDay * 1000000000 + t.nanosecond

/-- The time `n` nanoseconds after midnight, on whatever day that is. -/
def ofNanoseconds (n : Nat) : TimeOfDay where
  hour := n / 3600000000000 % 24
  minute := n / 60000000000 % 60
  second := n / 1000000000 % 60
  nanosecond := n % 1000000000
  hour_lt := Nat.mod_lt _ (by decide)
  minute_lt := Nat.mod_lt _ (by decide)
  second_lt := Nat.mod_lt _ (by decide)
  nanosecond_lt := Nat.mod_lt _ (by decide)

theorem nanosecondOfDay_lt (t : TimeOfDay) : t.nanosecondOfDay < 86400000000000 := by
  have := t.hour_lt
  have := t.minute_lt
  have := t.second_lt
  have := t.nanosecond_lt
  unfold nanosecondOfDay secondOfDay
  omega

theorem nanosecondOfDay_ofNanoseconds {n : Nat} (h : n < 86400000000000) :
    (ofNanoseconds n).nanosecondOfDay = n := by
  simp only [nanosecondOfDay, secondOfDay, ofNanoseconds]
  omega

@[simp] theorem ofNanoseconds_nanosecondOfDay (t : TimeOfDay) :
    ofNanoseconds t.nanosecondOfDay = t := by
  have := t.hour_lt
  have := t.minute_lt
  have := t.second_lt
  have := t.nanosecond_lt
  cases t
  simp only [nanosecondOfDay, secondOfDay, ofNanoseconds, mk.injEq] at *
  omega

/-- The hour on a 12-hour clock, from 1 to 12. Midnight and noon are 12. -/
def hour12 (t : TimeOfDay) : Nat := if t.hour % 12 = 0 then 12 else t.hour % 12

/-- The half of the day. -/
def meridiem (t : TimeOfDay) : Meridiem := if t.hour < 12 then .am else .pm

@[simp] theorem hour_meridiem_hour12 (t : TimeOfDay) : t.meridiem.hour t.hour12 = t.hour := by
  have := t.hour_lt
  unfold meridiem hour12
  split <;> split <;> simp only [Meridiem.hour] <;> omega

end TimeOfDay

end DateTemplate
