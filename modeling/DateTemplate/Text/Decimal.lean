/-!
# Decimal numbers of a least width

* `Decimal.digitCount`: how many decimal digits a number has. `digitCount_eq_length` says that
  these are the digits that it is written with.
* `Decimal.padded`: an integer in decimal, filled up to a width with zeros or with spaces.
-/

namespace DateTemplate

/-- What a number that is too short for its place is filled up with. -/
inductive Fill where
  /-- Zeros, which stand between a sign and the digits. -/
  | zero
  /-- Spaces, which stand before a sign. -/
  | space
deriving DecidableEq

/-- The character that fills. -/
def Fill.char : Fill → Char
  | zero => '0'
  | space => ' '

namespace Decimal

/-- How many decimal digits `n` has. -/
def digitCount (n : Nat) : Nat := if n < 10 then 1 else digitCount (n / 10) + 1

/-- The decimal digits of `n`, the highest first. -/
def digits (n : Nat) : List Char := Nat.toDigits 10 n

theorem digitCount_eq_length (n : Nat) : digitCount n = (digits n).length := by
  induction n using Nat.strongRecOn with
  | ind n ih =>
    unfold digitCount digits
    split
    · rw [Nat.toDigits_of_lt_base ‹_›]
      rfl
    · rw [Nat.toDigits_of_base_le (by decide) (by omega), ih _ (by omega)]
      simp [digits]

/-- The sign that an integer is written with. -/
def sign (n : Int) : List Char := if n < 0 then ['-'] else []

/-- The characters that fill `n` up to `width` characters. A sign counts as one. -/
def filler (fill : Fill) (width : Nat) (n : Int) : List Char :=
  .replicate (width - (digitCount n.natAbs + (sign n).length)) fill.char

/-- The integer in decimal, filled up to at least `width` characters. -/
def padded (fill : Fill) (width : Nat) (n : Int) : List Char :=
  match fill with
  | .zero => sign n ++ filler fill width n ++ digits n.natAbs
  | .space => filler fill width n ++ sign n ++ digits n.natAbs

theorem length_padded (fill : Fill) (width : Nat) (n : Int) :
    (padded fill width n).length = max width ((digits n.natAbs).length + (sign n).length) := by
  cases fill <;> simp [padded, filler, digitCount_eq_length] <;> omega

end Decimal

end DateTemplate
