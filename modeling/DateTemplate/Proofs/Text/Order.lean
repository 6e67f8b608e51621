import DateTemplate.Proofs.Text.Decimal
import Mathlib.Data.String.Basic
import Mathlib.Order.Compare

/-!
# The order of texts

Texts are compared character by character. Numbers of the same width come in the order of their texts.

* `compare_eq_then`, `compare_congr`: a comparison that others decide.
* `compare_toList`, `compare_append`: texts are compared from the front.
* `Decimal.compare_padded_append`: numbers that take up the same width, with any text behind them.
-/

namespace DateTemplate

/-! ## Comparisons -/

section

variable {α β : Type} [LinearOrder α] [LinearOrder β]

/-- A comparison that another one decides, unless that finds no difference. -/
theorem compare_eq_then {a a' : α} {b b' : β} {o : Ordering} (hlt : b < b' → a < a')
    (hgt : b' < b → a' < a) (heq : b = b' → compare a a' = o) :
    compare a a' = (compare b b').then o := by
  rcases lt_trichotomy b b' with h | h | h
  · rw [compare_lt_iff_lt.2 (hlt h), compare_lt_iff_lt.2 h]
    rfl
  · rw [heq h, compare_eq_iff_eq.2 h]
    rfl
  · rw [compare_gt_iff_gt.2 (hgt h), compare_gt_iff_gt.2 h]
    rfl

theorem compare_congr {a a' : α} {b b' : β} (hlt : b < b' → a < a') (hgt : b' < b → a' < a)
    (heq : b = b' → a = a') : compare a a' = compare b b' := by
  rw [compare_eq_then hlt hgt fun h => compare_eq_iff_eq.2 (heq h), Ordering.then_eq]

end

/-- The last digit decides only between numbers that agree without it. -/
theorem compare_mul_add {k a a' b b' : Nat} (hb : b < k) (hb' : b' < k) :
    compare (k * a + b) (k * a' + b') = (compare a a').then (compare b b') := by
  have hlt {a a' b b' : Nat} (hb : b < k) (h : a < a') : k * a + b < k * a' + b' := by
    have := Nat.mul_le_mul_left k (Nat.succ_le_of_lt h)
    rw [Nat.mul_succ] at this
    omega
  refine compare_eq_then (hlt hb) (hlt hb') fun h => ?_
  rw [h]
  exact compare_congr (by omega) (by omega) (by omega)

/-! ## Texts -/

theorem compare_eq_lt_iff_lt (us vs : List Char) : compare us vs = .lt ↔ us < vs := by
  induction us generalizing vs with
  | nil => cases vs <;> simp
  | cons c us ih =>
    cases vs with
    | nil => simp
    | cons d vs =>
      rw [List.compare_cons_cons, Ordering.then_eq_lt, ih, List.cons_lt_cons_iff, compare_lt_iff_lt,
        compare_eq_iff_eq]

theorem compare_toList (s t : String) : compare s t = compare s.toList t.toList := by
  have hlt {s t : String} (h : s < t) : compare s.toList t.toList = .lt :=
    (compare_eq_lt_iff_lt _ _).2 (String.lt_iff_toList_lt.1 h)
  rcases lt_trichotomy s t with h | rfl | h
  · rw [compare_lt_iff_lt.2 h, hlt h]
  · rw [compare_eq_iff_eq.2 rfl, Std.ReflOrd.compare_self]
  · rw [compare_gt_iff_gt.2 h, Std.OrientedCmp.gt_iff_lt.2 (hlt h)]

/-- What comes behind decides only between texts that begin the same way. -/
theorem compare_append {us vs : List Char} (h : us.length = vs.length) (xs ys : List Char) :
    compare (us ++ xs) (vs ++ ys) = (compare us vs).then (compare xs ys) := by
  induction us generalizing vs with
  | nil =>
    obtain rfl := List.length_eq_zero_iff.1 h.symm
    rfl
  | cons c us ih =>
    cases vs with
    | nil => cases h
    | cons d vs =>
      rw [List.cons_append, List.cons_append, List.compare_cons_cons, List.compare_cons_cons,
        ih (Nat.succ.inj h), Ordering.then_assoc]

theorem compare_append_left (us xs ys : List Char) : compare (us ++ xs) (us ++ ys) = compare xs ys := by
  rw [compare_append rfl, Std.ReflOrd.compare_self, Ordering.eq_then]

/-! ## Numbers -/

theorem compare_ofDigitChars {us vs : List Char} (hus : ∀ c ∈ us, c.isDigit) (hvs : ∀ c ∈ vs, c.isDigit)
    (h : us.length = vs.length) (m n : Nat) :
    compare (Nat.ofDigitChars 10 us m) (Nat.ofDigitChars 10 vs n) =
      (compare m n).then (compare us vs) := by
  induction us generalizing vs m n with
  | nil =>
    obtain rfl := List.length_eq_zero_iff.1 h.symm
    rw [Nat.ofDigitChars_nil, Nat.ofDigitChars_nil, Std.ReflOrd.compare_self, Ordering.then_eq]
  | cons c us ih =>
    cases vs with
    | nil => cases h
    | cons d vs =>
      have hzero : '0'.toNat = 48 := rfl
      have hc : 48 ≤ c.toNat ∧ c.toNat ≤ 57 := Bytes.isDigit_char_iff.1 (hus c List.mem_cons_self)
      have hd : 48 ≤ d.toNat ∧ d.toNat ≤ 57 := Bytes.isDigit_char_iff.1 (hvs d List.mem_cons_self)
      have hchar : compare (c.toNat - '0'.toNat) (d.toNat - '0'.toNat) = compare c d := by
        refine compare_congr (fun hlt => ?_) (fun hgt => ?_) (fun heq => by rw [heq])
        · have : c.toNat < d.toNat := hlt
          omega
        · have : d.toNat < c.toNat := hgt
          omega
      rw [Nat.ofDigitChars_cons, Nat.ofDigitChars_cons,
        ih (fun c' hc' => hus c' (List.mem_cons_of_mem c hc'))
          (fun d' hd' => hvs d' (List.mem_cons_of_mem d hd')) (Nat.succ.inj h),
        compare_mul_add (by omega) (by omega), hchar, List.compare_cons_cons, Ordering.then_assoc]

/-- Numbers that take up the same width are in the order of their texts. -/
theorem Decimal.compare_padded_append {w m n : Nat} (h : max w (digitCount m) = max w (digitCount n))
    (xs ys : List Char) : compare (padded .zero w (m : Int) ++ xs) (padded .zero w (n : Int) ++ ys) =
      (compare m n).then (compare xs ys) := by
  have hlen : (padded .zero w (m : Int)).length = (padded .zero w (n : Int)).length := by
    rw [length_padded_natCast, length_padded_natCast, h]
  have hcmp := compare_ofDigitChars (forall_isDigit_padded w m) (forall_isDigit_padded w n) hlen 0 0
  rw [ofDigitChars_padded, ofDigitChars_padded, Std.ReflOrd.compare_self, Ordering.eq_then] at hcmp
  rw [compare_append hlen, hcmp]

end DateTemplate
