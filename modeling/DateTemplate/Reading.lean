import DateTemplate.Calendar.Month
import DateTemplate.Calendar.Weekday
import DateTemplate.Clock
import DateTemplate.Offset

/-!
# What has been read

Reading a text gives a sequence of entries, one for each field. A later entry replaces an earlier
one of the same kind, and nothing is checked from one kind to another: a reading may name a day
that its month does not have.

* `Entry`: what one field told.
* `Reading`, `Reading.ofEntries`: what all fields told.
* `Reading.hour`: the hour, with the half of the day taken into account.
-/

namespace DateTemplate

/-- What a field told. -/
inductive Entry where
  | year (n : Int)
  | month (m : Month)
  | day (n : Nat)
  | dayOfYear (n : Nat)
  | hour (n : Nat)
  | minute (n : Nat)
  | second (n : Nat)
  | nanosecond (n : Nat)
  | offset (o : Offset)
  | weekday (w : Weekday)
  | meridiem (m : Meridiem)
deriving DecidableEq

/-- What the fields of a text told, and nothing for those that it does not have. -/
structure Reading where
  year : Option Int := none
  month : Option Month := none
  day : Option Nat := none
  dayOfYear : Option Nat := none
  /-- The hour the way it was written. -/
  writtenHour : Option Nat := none
  minute : Option Nat := none
  second : Option Nat := none
  nanosecond : Option Nat := none
  offset : Option Offset := none
  weekday : Option Weekday := none
  meridiem : Option Meridiem := none
deriving DecidableEq

namespace Reading

/-- The reading with one more entry. -/
def record (r : Reading) : Entry → Reading
  | .year n => { r with year := some n }
  | .month m => { r with month := some m }
  | .day n => { r with day := some n }
  | .dayOfYear n => { r with dayOfYear := some n }
  | .hour n => { r with writtenHour := some n }
  | .minute n => { r with minute := some n }
  | .second n => { r with second := some n }
  | .nanosecond n => { r with nanosecond := some n }
  | .offset o => { r with offset := some o }
  | .weekday w => { r with weekday := some w }
  | .meridiem m => { r with meridiem := some m }

/-- The reading that a sequence of entries makes. -/
def ofEntries (es : List Entry) : Reading := es.foldl record {}

/-- The hour of the day. A half of the day turns the written hour into one of that half. -/
def hour (r : Reading) : Option Nat :=
  match r.meridiem with
  | none => r.writtenHour
  | some m => r.writtenHour.map m.hour

end Reading

end DateTemplate
