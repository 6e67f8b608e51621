import DateTemplate.Proofs.Text.Bytes
import DateTemplate.Text.Decimal.Read

/-!
# Decimal numbers as bytes

* `Decimal.padded_of_neg`, `Decimal.padded_space`: every padded number is a sign or spaces, and a
  number that is filled up with zeros.
* `Decimal.forall_isDigit_padded`, `Decimal.length_padded_natCast`: a number filled up with zeros is as
  many digits as its width says, if it has no more.
* `Decimal.padded_injective`: different numbers have different texts.
* `Decimal.readDigits_padded`, `Decimal.value_utf8_padded`: a reader finds these digits and the
  number that they stand for.
-/

namespace DateTemplate.Decimal

open Bytes

theorem padded_natCast (width n : Nat) :
    padded .zero width (n : Int) = .replicate (width - digitCount n) '0' ++ digits n := by
  have h : ¬ (n : Int) < 0 := by omega
  simp [padded, sign, filler, h, Fill.char]

/-- The sign of a negative number takes up one character of its width. -/
theorem padded_of_neg (width : Nat) {n : Int} (h : n < 0) :
    padded .zero width n = '-' :: padded .zero (width - 1) (n.natAbs : Int) := by
  have hw : width - (digitCount n.natAbs + 1) = width - 1 - digitCount n.natAbs := by omega
  rw [padded_natCast]
  simp [padded, sign, filler, h, Fill.char, hw]

theorem padded_space (width n : Nat) :
    padded .space width (n : Int) =
      .replicate (width - digitCount n) ' ' ++ padded .zero 0 (n : Int) := by
  have h : ¬ (n : Int) < 0 := by omega
  rw [padded_natCast]
  simp [padded, sign, filler, h, Fill.char]

/-- Without a width there is nothing to fill. -/
theorem padded_zero_width (fill : Fill) (n : Int) : padded fill 0 n = padded .zero 0 n := by
  cases fill <;> simp [padded, filler]

theorem forall_isDigit_padded (width n : Nat) : ∀ c ∈ padded .zero width (n : Int), c.isDigit := by
  intro c hc
  rw [padded_natCast] at hc
  exact isDigit_of_mem_replicate_append hc

theorem padded_ne_nil (width n : Nat) : padded .zero width (n : Int) ≠ [] := by
  simp [padded_natCast, digits_ne_nil]

theorem digitCount_le_iff {n k : Nat} (hk : 0 < k) : digitCount n ≤ k ↔ n < 10 ^ k := by
  rw [digitCount_eq_length]
  exact Nat.length_toDigits_le_iff (by decide) hk

theorem digitCount_le {n k : Nat} (hk : 0 < k) (h : n < 10 ^ k) : digitCount n ≤ k :=
  (digitCount_le_iff hk).2 h

theorem length_padded_natCast (width n : Nat) :
    (padded .zero width (n : Int)).length = max width (digitCount n) := by
  rw [padded_natCast, List.length_append, List.length_replicate, ← digitCount_eq_length]
  omega

theorem padded_injective {fill : Fill} {width : Nat} {m n : Int}
    (h : padded fill width m = padded fill width n) : m = n := by
  have hread := congrArg read? h
  rwa [read?_padded, read?_padded, Option.some.injEq] at hread

theorem ofDigitChars_padded (width n : Nat) :
    Nat.ofDigitChars 10 (padded .zero width (n : Int)) 0 = n := by
  rw [padded_natCast, Nat.ofDigitChars_append, Nat.ofDigitChars_replicate_zero, Nat.mul_zero]
  exact Nat.ofDigitChars_toDigits (by decide) (by decide)

/-- A reader finds the number that the digits stand for. -/
@[simp] theorem value_utf8_padded (width n : Nat) :
    value (utf8 (padded .zero width (n : Int))) = n := by
  rw [(utf8_of_isDigit (forall_isDigit_padded width n)).2.2, ofDigitChars_padded]

@[simp] theorem length_utf8_padded (width n : Nat) :
    (utf8 (padded .zero width (n : Int))).length = max width (digitCount n) := by
  rw [(utf8_of_isDigit (forall_isDigit_padded width n)).2.1, length_padded_natCast]

/-- A reader takes the digits of the number and goes on with those that come behind them. -/
theorem readDigits_padded {limit width n : Nat} (h : max width (digitCount n) ≤ limit)
    (rest : List UInt8) :
    readDigits limit (utf8 (padded .zero width (n : Int)) ++ rest) =
      some (utf8 (padded .zero width (n : Int)) ++
          leadingDigits (limit - max width (digitCount n)) rest,
        rest.drop (leadingDigits (limit - max width (digitCount n)) rest).length) := by
  have hd := (utf8_of_isDigit (forall_isDigit_padded width n)).1
  have hne : utf8 (padded .zero width (n : Int)) ≠ [] := by
    have hpos : 0 < digitCount n := by unfold digitCount; split <;> omega
    rw [← List.length_pos_iff, length_utf8_padded]
    omega
  have hl : (utf8 (padded .zero width (n : Int))).length ≤ limit := by
    rwa [length_utf8_padded]
  rw [readDigits_append hne hd hl, length_utf8_padded]

theorem startsWithDigit_padded (width n : Nat) (rest : List UInt8) :
    startsWithDigit (utf8 (padded .zero width (n : Int)) ++ rest) := by
  have hne := padded_ne_nil width n
  have hd := forall_isDigit_padded width n
  cases h : padded .zero width (n : Int) with
  | nil => exact absurd h hne
  | cons c cs =>
    rw [h] at hd
    rw [startsWithDigit_utf8_cons]
    exact hd c List.mem_cons_self

theorem countP_isDigit_padded (width n : Nat) :
    (padded .zero width (n : Int)).countP Char.isDigit = max width (digitCount n) := by
  rw [List.countP_eq_length.2 (forall_isDigit_padded width n), length_padded_natCast]

end DateTemplate.Decimal
