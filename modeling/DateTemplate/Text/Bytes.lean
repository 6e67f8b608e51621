/-!
# Text as bytes

What is read back is a sequence of bytes, which need not be the UTF-8 form of a text.

* `Bytes.utf8`: the UTF-8 form of a text.
* `Bytes.skipBlanks`, `Bytes.drop?`, `Bytes.readDigits`: the parts that readers are made of. Each
  says which bytes are left.
-/

namespace DateTemplate.Bytes

/-- The UTF-8 form of a text. -/
def utf8 (cs : List Char) : List UInt8 := cs.flatMap String.utf8EncodeChar

/-- Whether the byte is an ASCII space, tab, line feed, form feed or carriage return. -/
def isBlank (b : UInt8) : Bool := b = 32 || b = 9 || b = 10 || b = 12 || b = 13

/-- Whether the byte is an ASCII digit. -/
def isDigit (b : UInt8) : Bool := 48 ≤ b && b ≤ 57

/-- The byte with an ASCII capital letter made small. -/
def small (b : UInt8) : UInt8 := if 65 ≤ b && b ≤ 90 then b + 32 else b

/-- The bytes from the first one that is not blank. -/
def skipBlanks (bs : List UInt8) : List UInt8 := bs.dropWhile isBlank

/-- What comes after `text` at the start of the bytes. Two bytes count as the same if `key` takes
them to the same one. -/
def drop? (key : UInt8 → UInt8) : List UInt8 → List UInt8 → Option (List UInt8)
  | [], bs => some bs
  | _ :: _, [] => none
  | t :: text, b :: bs => if key t = key b then drop? key text bs else none

/-- The number that decimal digits stand for. -/
def value (digits : List UInt8) : Nat := digits.foldl (fun n b => 10 * n + (b.toNat - 48)) 0

/-- The digits at the start of the bytes, `limit` of them at most. -/
def leadingDigits (limit : Nat) (bs : List UInt8) : List UInt8 := (bs.take limit).takeWhile isDigit

/-- Reads as many digits as there are, at least one and at most `limit`. -/
def readDigits (limit : Nat) (bs : List UInt8) : Option (List UInt8 × List UInt8) :=
  match leadingDigits limit bs with
  | [] => none
  | digits => some (digits, bs.drop digits.length)

/-- Reads two digits. -/
def readTwoDigits : List UInt8 → Option (Nat × List UInt8)
  | a :: b :: bs => if isDigit a && isDigit b then some (value [a, b], bs) else none
  | _ => none

/-- Reads a sign, and says whether it is a minus. -/
def readSign : List UInt8 → Option (Bool × List UInt8)
  | 43 :: bs => some (false, bs)
  | 45 :: bs => some (true, bs)
  | _ => none

/-- Reads the name of one of `xs`, in small or capital letters. -/
def readName {α : Type} (xs : List α) (name : α → String) (bs : List UInt8) :
    Option (α × List UInt8) :=
  xs.findSome? fun x => (drop? small (utf8 (name x).toList) bs).map fun rest => (x, rest)

end DateTemplate.Bytes
