import DateTemplate.Field.Name
import DateTemplate.Reading
import DateTemplate.Text.Bytes

/-!
# Reading fields

* `Field.read?`: what a field tells, and the bytes left after it. Numbers take as many digits as
  they can, blanks before them do not matter, and the case of letters does not matter.
* `Item.read?`: the same for an item. A literal blank stands for any number of blanks.
* `Item.readSequence?`: the same for several items, one after the other. `readSequence?_append` says
  that a sequence may be cut anywhere.
* `Item.readAll?`: the entries of a whole text.
-/

namespace DateTemplate

namespace Quantity

/-- The entry that a number makes, if it is in range. Years of the century are those from 1969 to
2068, and a leap second counts as the one before it. -/
def entry? (n : Nat) : Quantity → Option Entry
  | year => some (.year n)
  | yearOfCentury => some (.year (if n ≤ 68 then 2000 + n else 1900 + n))
  | month => (Month.ofNumber? n).map .month
  | day => if 1 ≤ n ∧ n ≤ 31 then some (.day n) else none
  | dayOfYear => if 1 ≤ n ∧ n ≤ 366 then some (.dayOfYear n) else none
  | hour => if n < 24 then some (.hour n) else none
  | hour12 => if 1 ≤ n ∧ n ≤ 12 then some (.hour n) else none
  | minute => if n < 60 then some (.minute n) else none
  | second => if n ≤ 60 then some (.second (min n 59)) else none

/-- Reads a number without a sign. -/
def readNumber? (q : Quantity) (bs : List UInt8) : Option (Nat × List UInt8) := do
  let (digits, rest) ← Bytes.readDigits q.width (Bytes.skipBlanks bs)
  return (Bytes.value digits, rest)

/-- Reads a number. Only a full year may have a sign. -/
def read? (bs : List UInt8) : Quantity → Option (Entry × List UInt8)
  | year => do
    let (negative, bs) := (Bytes.readSign bs).getD (false, bs)
    let (n, rest) ← readNumber? .year bs
    return (.year (if negative then -n else n), rest)
  | q => do
    let (n, rest) ← readNumber? q bs
    let e ← q.entry? n
    return (e, rest)

end Quantity

/-- Reads one to nine digits after a decimal point, whatever precision they are written with. -/
def Precision.read? (bs : List UInt8) : Option (Entry × List UInt8) := do
  let (digits, rest) ← Bytes.readDigits 9 bs
  return (.nanosecond (Bytes.value (digits ++ .replicate (9 - digits.length) 48)), rest)

namespace Offset

/-- Reads hours, minutes and, if there are two more digits, seconds. No decimal point may come after
the seconds. -/
def read? (bs : List UInt8) : Option (Offset × List UInt8) := do
  let (west, bs) ← Bytes.readSign bs
  let (hours, bs) ← Bytes.readTwoDigits bs
  let (minutes, bs) ← Bytes.readTwoDigits bs
  let (seconds, bs) ← match Bytes.readTwoDigits bs with
    | none => some (0, bs)
    | some (n, rest) => if rest.head?.any fun b => b = 46 || b = 44 then none else some (n, rest)
  guard (hours ≤ 25 ∧ minutes < 60 ∧ seconds < 60)
  let distance : Int := hours * 3600 + minutes * 60 + seconds
  let offset ← ofSeconds? (if west then -distance else distance)
  return (offset, bs)

end Offset

/-- Reads the text of a field. A time zone's name cannot be read. -/
def Field.read? (bs : List UInt8) : Field → Option (Entry × List UInt8)
  | number q _ => q.read? bs
  | fraction _ => Precision.read? bs
  | weekday s => (Bytes.readName Weekday.all s.weekday bs).map fun (w, rest) => (.weekday w, rest)
  | month s => (Bytes.readName Month.all s.month bs).map fun (m, rest) => (.month m, rest)
  | meridiem l =>
    (Bytes.readName Meridiem.all l.meridiem bs).map fun (m, rest) => (.meridiem m, rest)
  | offset => (Offset.read? bs).map fun (o, rest) => (.offset o, rest)
  | zoneName => none

namespace Item

/-- Whether a literal character stands for any number of blanks. -/
def isBlank (c : Char) : Bool := (String.utf8EncodeChar c).all Bytes.isBlank

/-- Reads the text of an item. -/
def read? (bs : List UInt8) : Item → Option (Option Entry × List UInt8)
  | literal c =>
    if isBlank c then some (none, Bytes.skipBlanks bs)
    else (Bytes.drop? id (String.utf8EncodeChar c) bs).map fun rest => (none, rest)
  | field f => (f.read? bs).map fun (e, rest) => (some e, rest)

/-- Reads the text of a sequence of items. -/
def readSequence? : List Item → List UInt8 → Option (List Entry × List UInt8)
  | [], bs => some ([], bs)
  | i :: is, bs => do
    let (e, bs) ← i.read? bs
    let (es, bs) ← readSequence? is bs
    return (e.toList ++ es, bs)

theorem readSequence?_append (is js : List Item) (bs : List UInt8) :
    readSequence? (is ++ js) bs = do
      let (es, bs) ← readSequence? is bs
      let (fs, bs) ← readSequence? js bs
      return (es ++ fs, bs) := by
  induction is generalizing bs with
  | nil => cases h : readSequence? js bs <;> simp [readSequence?, h]
  | cons i is ih =>
    simp only [List.cons_append, readSequence?, ih]
    cases i.read? bs with
    | none => rfl
    | some p =>
      cases h : readSequence? is p.2 with
      | none => simp [h]
      | some q => cases h' : readSequence? js q.2 <;> simp [h, h']

/-- The entries of a text that consists of the given items and nothing else. -/
def readAll? (is : List Item) (bs : List UInt8) : Option (List Entry) := do
  let (es, rest) ← readSequence? is bs
  guard rest.isEmpty
  return es

end Item

end DateTemplate
