import DateTemplate.Field
import DateTemplate.Instant
import DateTemplate.Reading

/-!
# What fields tell

* `Field.entry?`: what a field tells of an instant, which is all that can be read back from its
  text.
-/

namespace DateTemplate

/-- What a number tells of an instant. The last two digits of a year tell the whole year, and an
hour on a 12-hour clock tells nothing of the half of the day. -/
def Quantity.entry (z : Instant) : Quantity → Entry
  | year | yearOfCentury => .year z.date.year
  | month => .month z.date.month
  | day => .day z.date.day
  | dayOfYear => .dayOfYear z.date.dayOfYear
  | hour => .hour z.time.hour
  | hour12 => .hour z.time.hour12
  | minute => .minute z.time.minute
  | second => .second z.time.second

/-- The nanoseconds without the digits that the precision does not show. -/
def Precision.truncate (nanosecond : Nat) (p : Precision) : Nat :=
  nanosecond / p.unit * p.unit

/-- What a field tells of an instant. The name of a time zone tells nothing. -/
def Field.entry? (z : Instant) : Field → Option Entry
  | number q _ => some (q.entry z)
  | fraction p => some (.nanosecond (p.truncate z.time.nanosecond))
  | weekday _ => some (.weekday z.date.weekday)
  | month _ => some (.month z.date.month)
  | meridiem _ => some (.meridiem z.time.meridiem)
  | offset => some (.offset z.offset)
  | zoneName => none

/-- What the fields of a sequence of items tell of an instant. -/
def Item.entries (z : Instant) (items : List Item) : List Entry :=
  items.filterMap fun i => i.field?.bind (Field.entry? z)

end DateTemplate
