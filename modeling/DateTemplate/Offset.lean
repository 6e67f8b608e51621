/-!
# Offsets from UTC

* `Offset`: a fixed number of seconds east of UTC, less than 26 hours either way.
* `Offset.hours`, `Offset.minutes`, `Offset.restSeconds`: its size, taken apart.
-/

namespace DateTemplate

/-- A fixed distance of local time from UTC. -/
structure Offset where
  /-- The seconds by which local time is ahead. They are negative west of UTC. -/
  seconds : Int
  neg_limit_le : -93599 ≤ seconds
  le_limit : seconds ≤ 93599
deriving DecidableEq

namespace Offset

/-- The offset with the given seconds, if it is in range. -/
def ofSeconds? (n : Int) : Option Offset :=
  if h : -93599 ≤ n ∧ n ≤ 93599 then some ⟨n, h.1, h.2⟩ else none

/-- No offset. -/
def utc : Offset := ⟨0, by decide, by decide⟩

/-- Whether local time is behind UTC. -/
def isWest (o : Offset) : Bool := o.seconds < 0

/-- The whole hours of the distance. -/
def hours (o : Offset) : Nat := o.seconds.natAbs / 3600

/-- The whole minutes of the distance that are left after the hours. -/
def minutes (o : Offset) : Nat := o.seconds.natAbs / 60 % 60

/-- The seconds of the distance that are left after the hours and the minutes. -/
def restSeconds (o : Offset) : Nat := o.seconds.natAbs % 60

theorem hours_le (o : Offset) : o.hours ≤ 25 := by
  have := o.neg_limit_le
  have := o.le_limit
  unfold hours
  omega

theorem natAbs_seconds (o : Offset) :
    o.seconds.natAbs = o.hours * 3600 + o.minutes * 60 + o.restSeconds := by
  unfold hours minutes restSeconds
  omega

end Offset

end DateTemplate
