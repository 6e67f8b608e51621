import DateTemplate.Template.Logged

/-!
# Random samples

Random bytes make a template and an instant on which the operations are tried out.

* `Sample.decode`: the sample that bytes stand for. Numbers are made from the bytes that there are,
  while a template needs all of its bytes.
* `Sample.Encodable`, `Sample.encode`: the samples that bytes stand for, and the bytes for one.
* `Sample.exercise`: the operations, tried out on a sample.
-/

namespace DateTemplate

/-- A template and an instant at a whole second, told at an offset of whole hours. -/
structure Sample where
  /-- The seconds since the start of 1970. -/
  seconds : Int
  /-- The hours of the offset. -/
  hours : Int
  template : Template
deriving DecidableEq

/-- Why bytes stand for no sample. -/
inductive SampleError where
  /-- The template is longer than the bytes that are left. -/
  | notEnoughData
  /-- The template is not UTF-8. -/
  | incorrectFormat
deriving DecidableEq

namespace Sample

/-- The number that bytes stand for, the highest first. -/
def bigEndian (bs : List UInt8) : Nat := bs.foldl (fun n b => 256 * n + b.toNat) 0

/-- The text that bytes are the UTF-8 form of. -/
def text? (bs : List UInt8) : Option String := String.fromUTF8? ⟨bs.toArray⟩

/-- How many seconds an instant can be in. -/
def secondCount : Nat := (Instant.lastSecond - Instant.firstSecond + 1).toNat

/-- The sample that bytes stand for: five bytes for the seconds, one for the offset, and one for the
length of the template, which comes after it. What is left over does not matter. -/
def decode (bs : List UInt8) : Except SampleError Sample :=
  let seconds : Int := Instant.firstSecond + (bigEndian (bs.take 5) % secondCount : Nat)
  let hours : Int := (bigEndian ((bs.drop 5).take 1) % 51 : Nat) - 25
  let length := bigEndian ((bs.drop 6).take 1)
  let template := (bs.drop 7).take length
  if template.length < length then .error .notEnoughData
  else match text? template with
    | none => .error .incorrectFormat
    | some text => .ok ⟨seconds, hours, ⟨text⟩⟩

/-- The last `k` bytes of a number, the highest first. -/
def bytes : Nat → Nat → List UInt8
  | 0, _ => []
  | k + 1, n => bytes k (n / 256) ++ [n.toUInt8]

/-- The UTF-8 form of the template. -/
def templateBytes (s : Sample) : List UInt8 := Bytes.utf8 s.template.text.toList

/-- The samples that bytes stand for. -/
structure Encodable (s : Sample) : Prop where
  firstSecond_le : Instant.firstSecond ≤ s.seconds
  le_lastSecond : s.seconds ≤ Instant.lastSecond
  neg_limit_le : -25 ≤ s.hours
  le_limit : s.hours ≤ 25
  length_lt : s.templateBytes.length < 256

/-- The bytes for a sample. -/
def encode (s : Sample) : List UInt8 :=
  bytes 5 (s.seconds - Instant.firstSecond).toNat ++ bytes 1 (s.hours + 25).toNat ++
    bytes 1 s.templateBytes.length ++ s.templateBytes

/-- The seconds of the offset. -/
def offsetSeconds (s : Sample) : Int := s.hours * 3600

/-- The instant of the sample. -/
def instant? (s : Sample) : Option Instant := do
  let offset ← Offset.ofSeconds? s.offsetSeconds
  Instant.ofUnix? s.seconds 0 offset none

/-- Formats the sample's instant, compiles its template into a pattern, and reads the text back.
The answer is whether a template without specifiers was shown as it is. -/
def exercise (s : Sample) (z : Instant) : Logged Bool := do
  let text ← s.template.loggedFormat z
  let _ ← s.template.loggedPattern
  let _ ← s.template.loggedRead (Bytes.utf8 text.toList)
  return s.template.text.contains '%' || text = s.template.text

end Sample

end DateTemplate
