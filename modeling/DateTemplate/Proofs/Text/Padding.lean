import DateTemplate.Proofs.Text.Decimal
import Mathlib.Data.Nat.Log

/-!
# Decimal numbers and what fills them up

* `Decimal.digitCount_eq_log`: the digits of a number, counted by the integer logarithm.
* `Decimal.natAbs_toInt`: the absolute value of a 64-bit number.
* `Decimal.toList_toString`: the plain decimal form of an integer.
* `Decimal.padded_eq_toString`: a padded number is its plain form and what fills it up.
-/

namespace DateTemplate.Decimal

/-! ## Digits -/

/-- The digits are one more than the integer logarithm. The logarithm of 0 counts as 0. -/
theorem digitCount_eq_log (n : Nat) : digitCount n = Nat.log 10 n + 1 := by
  induction n using Nat.strongRecOn with
  | ind n ih =>
    unfold digitCount
    split
    · rw [Nat.log_of_lt ‹_›]
    · have hpos : 0 < Nat.log 10 n := Nat.log_pos (by decide) (by omega)
      rw [ih _ (by omega), Nat.log_div_base]
      omega

theorem toList_toString_nat (n : Nat) : (toString n).toList = digits n := by
  have hrepr : toString n = String.ofList (Nat.toDigits 10 n) := Nat.repr_eq_ofList_toDigits
  rw [hrepr, String.toList_ofList, digits]

/-- The absolute value of a 64-bit number fits into 64 bits without a sign. This holds of the least one
too, whose absolute value is none with a sign. -/
theorem natAbs_toInt (n : Int64) : n.toInt.natAbs = n.abs.toUInt64.toNat := by
  have habs : n.abs.toUInt64.toNat = n.toBitVec.abs.toNat := rfl
  have hlt := n.toBitVec.isLt
  rw [habs, BitVec.toNat_abs, ← Int64.toInt_toBitVec, BitVec.toInt_eq_msb_cond]
  split <;> omega

/-! ## Padded numbers -/

/-- The plain form of an integer is a sign and its digits. -/
theorem toList_toString (n : Int) : (toString n).toList = sign n ++ digits n.natAbs := by
  cases n with
  | ofNat m =>
    have hsign : sign (.ofNat m) = [] := if_neg (by simp)
    rw [hsign]
    exact toList_toString_nat m
  | negSucc m =>
    have hsign : sign (.negSucc m) = ['-'] := if_pos (Int.negSucc_lt_zero m)
    have hrepr : toString (Int.negSucc m) = "-" ++ toString (m + 1) := rfl
    rw [hsign, hrepr, String.toList_append, toList_toString_nat]
    rfl

theorem filler_eq (fill : Fill) (width : Nat) (n : Int) :
    filler fill width n = .replicate (width - (toString n).length) fill.char := by
  rw [filler, digitCount_eq_length, ← String.length_toList, toList_toString, List.length_append,
    Nat.add_comm]

/-- Filling a number up leaves nothing out. -/
theorem toList_toString_sublist (fill : Fill) (width : Nat) (n : Int) :
    (toString n).toList.Sublist (padded fill width n) := by
  rw [toList_toString]
  cases fill with
  | zero => exact (List.sublist_append_left _ _).append_right _
  | space =>
    rw [padded, List.append_assoc]
    exact List.sublist_append_right _ _

/-- **Padded numbers.** A padded number is its plain decimal form with what is missing to the width filled
in: zeros behind the sign, or spaces before it. So it is as long as the longer of the two, leaves nothing
out and is read back as the number. The plain form is measured by an integer logarithm of the absolute
value, which every 64-bit number has. -/
theorem padded_eq_toString (fill : Fill) (width : Nat) (n : Int) :
    (toString n).toList = sign n ++ digits n.natAbs ∧
    padded .zero width n =
      sign n ++ .replicate (width - (toString n).length) '0' ++ digits n.natAbs ∧
    padded .space width n = .replicate (width - (toString n).length) ' ' ++ (toString n).toList ∧
    (padded fill width n).length = max width (toString n).length ∧
    (toString n).toList.Sublist (padded fill width n) ∧
    read? (padded fill width n) = some n ∧
    (∀ m : Nat, digitCount m = (toString m).length ∧ digitCount m = Nat.log 10 m + 1) ∧
    ∀ k : Int64, k.toInt.natAbs = k.abs.toUInt64.toNat := by
  refine ⟨toList_toString n, ?_, ?_, ?_, toList_toString_sublist fill width n,
    read?_padded fill width n, fun m => ⟨?_, digitCount_eq_log m⟩, natAbs_toInt⟩
  · rw [padded, filler_eq, Fill.char]
  · rw [padded, filler_eq, Fill.char, toList_toString, List.append_assoc]
  · rw [length_padded, ← String.length_toList, toList_toString, List.length_append, Nat.add_comm]
  · rw [digitCount_eq_length, ← toList_toString_nat, String.length_toList]

example : String.ofList (padded .zero 22 Int64.minValue.toInt) = "-009223372036854775808" := by
  decide +kernel

end DateTemplate.Decimal
