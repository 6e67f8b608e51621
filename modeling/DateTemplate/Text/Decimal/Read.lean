import DateTemplate.Text.Decimal

/-!
# Reading decimal numbers

* `Decimal.read?`: the integer that a text stands for. `read?_padded` says that a number is read
  back from its text, whatever it was filled up with.
* `Decimal.unpadded`: the text of a number without what fills it up. `unpadded_padded` says that
  the width and the filling leave no trace.
-/

namespace DateTemplate.Decimal

/-- The number that digits stand for. -/
def natural? (cs : List Char) : Option Nat :=
  if cs ≠ [] ∧ cs.all Char.isDigit then some (Nat.ofDigitChars 10 cs 0) else none

/-- Whether a text has a minus sign, and what comes after it. Spaces before it do not count. -/
def unsigned (cs : List Char) : Bool × List Char :=
  match cs.dropWhile (· = ' ') with
  | '-' :: ds => (true, ds)
  | ds => (false, ds)

/-- The integer that a text stands for. -/
def read? (cs : List Char) : Option Int :=
  let (negative, ds) := unsigned cs
  (natural? ds).map fun n => if negative then -(n : Int) else n

/-- Digits without the zeros before them. The last digit stays even if it is a zero. -/
def unzeroed : List Char → List Char
  | '0' :: c :: cs => unzeroed (c :: cs)
  | cs => cs

/-- The text of a number without the spaces before it and without the zeros before its digits. -/
def unpadded (cs : List Char) : List Char :=
  let (negative, ds) := unsigned cs
  (if negative then ['-'] else []) ++ unzeroed ds

/-! ## Digits -/

theorem digits_ne_nil (n : Nat) : digits n ≠ [] := by
  have := digitCount_eq_length n
  intro h
  rw [h] at this
  unfold digitCount at this
  split at this <;> simp at this

theorem isDigit_of_mem_digits {n : Nat} {c : Char} (h : c ∈ digits n) : c.isDigit :=
  Nat.isDigit_of_mem_toDigits (by decide) (by decide) h

/-- The first digit of a number is a zero only if it is the only one. -/
theorem head?_digits_ne_zero {n : Nat} (h : n ≠ 0) : (digits n).head? ≠ some '0' := by
  induction n using Nat.strongRecOn with
  | ind n ih =>
    unfold digits
    rcases Nat.lt_or_ge n 10 with hn | hn
    · rw [Nat.toDigits_of_lt_base hn]
      have : n = 1 ∨ n = 2 ∨ n = 3 ∨ n = 4 ∨ n = 5 ∨ n = 6 ∨ n = 7 ∨ n = 8 ∨ n = 9 := by omega
      rcases this with h | h | h | h | h | h | h | h | h <;> subst h <;> decide
    · have := ih (n / 10) (by omega) (by omega)
      have := digits_ne_nil (n / 10)
      rw [Nat.toDigits_of_base_le (by decide) hn]
      unfold digits at *
      cases hd : Nat.toDigits 10 (n / 10) <;> simp_all

theorem unzeroed_of_head?_ne {cs : List Char} (h : cs.head? ≠ some '0') : unzeroed cs = cs := by
  unfold unzeroed
  split
  · simp at h
  · rfl

theorem unzeroed_digits (n : Nat) : unzeroed (digits n) = digits n := by
  rcases Nat.eq_zero_or_pos n with rfl | h
  · rfl
  · exact unzeroed_of_head?_ne (head?_digits_ne_zero (Nat.ne_of_gt h))

theorem unzeroed_replicate_append (k : Nat) {cs : List Char} (h : cs ≠ []) :
    unzeroed (.replicate k '0' ++ cs) = unzeroed cs := by
  induction k with
  | zero => rfl
  | succ k ih =>
    rw [List.replicate_succ, List.cons_append, ← ih]
    cases hc : List.replicate k '0' ++ cs with
    | nil => simp_all
    | cons c ds => rfl

theorem isDigit_of_mem_replicate_append {k n : Nat} {c : Char}
    (h : c ∈ List.replicate k '0' ++ digits n) : c.isDigit := by
  rcases List.mem_append.1 h with h | h
  · rw [List.eq_of_mem_replicate h]
    decide
  · exact isDigit_of_mem_digits h

theorem natural?_replicate_append (k n : Nat) :
    natural? (.replicate k '0' ++ digits n) = some n := by
  unfold natural?
  rw [if_pos ⟨by simp [digits_ne_nil],
    List.all_eq_true.2 fun _ => isDigit_of_mem_replicate_append⟩]
  congr 1
  induction k with
  | zero => exact Nat.ofDigitChars_toDigits (by decide) (by decide)
  | succ k ih =>
    rw [List.replicate_succ, List.cons_append, Nat.ofDigitChars_cons]
    exact ih

/-! ## Padded numbers -/

theorem unsigned_of_isDigit (negative : Bool) (k : Nat) {ds : List Char}
    (h : ∀ c ∈ ds, c.isDigit) :
    unsigned (.replicate k ' ' ++ (if negative then ['-'] else []) ++ ds) = (negative, ds) := by
  have hs (cs : List Char) : (List.replicate k ' ' ++ cs).dropWhile (· = ' ') =
      cs.dropWhile (· = ' ') := by
    rw [List.dropWhile_append_of_pos]
    intro c hc
    rw [List.eq_of_mem_replicate hc]
    rfl
  unfold unsigned
  rw [List.append_assoc, hs]
  cases negative with
  | true => rfl
  | false =>
    cases ds with
    | nil => rfl
    | cons c ds =>
      have hc := h c List.mem_cons_self
      have h₁ : c ≠ ' ' := by rintro rfl; revert hc; decide
      have h₂ : c ≠ '-' := by rintro rfl; revert hc; decide
      simp only [Bool.false_eq_true, if_false, List.nil_append]
      rw [List.dropWhile_cons_of_neg (by simpa using h₁)]
      split
      · simp_all
      · rfl

/-- A padded number is a sign and digits with zeros before them, behind any spaces. -/
theorem unsigned_padded (fill : Fill) (width : Nat) (n : Int) :
    ∃ k, unsigned (padded fill width n) =
      (decide (n < 0), .replicate k '0' ++ digits n.natAbs) := by
  have hs : sign n = if decide (n < 0) then ['-'] else [] := by simp [sign]
  cases fill with
  | zero =>
    let k := width - (digitCount n.natAbs + (sign n).length)
    have hd : ∀ c ∈ List.replicate k '0' ++ digits n.natAbs, c.isDigit :=
      fun _ => isDigit_of_mem_replicate_append
    have := unsigned_of_isDigit (decide (n < 0)) 0 hd
    rw [← hs] at this
    exact ⟨k, by simpa [padded, filler, Fill.char, k] using this⟩
  | space =>
    refine ⟨0, ?_⟩
    have hd : ∀ c ∈ digits n.natAbs, c.isDigit := fun _ => isDigit_of_mem_digits
    have := unsigned_of_isDigit (decide (n < 0))
      (width - (digitCount n.natAbs + (sign n).length)) hd
    rw [← hs] at this
    simpa [padded, filler, Fill.char] using this

@[simp] theorem read?_padded (fill : Fill) (width : Nat) (n : Int) :
    read? (padded fill width n) = some n := by
  obtain ⟨k, hk⟩ := unsigned_padded fill width n
  have hn : (if decide (n < 0) then -(n.natAbs : Int) else n.natAbs) = n := by
    simp only [decide_eq_true_eq]
    split <;> omega
  rw [read?, hk]
  simp only [natural?_replicate_append]
  exact congrArg some hn

@[simp] theorem unpadded_padded (fill : Fill) (width : Nat) (n : Int) :
    unpadded (padded fill width n) = padded .zero 0 n := by
  obtain ⟨k, hk⟩ := unsigned_padded fill width n
  simp only [unpadded, hk, unzeroed_replicate_append k (digits_ne_nil _), unzeroed_digits]
  simp [padded, filler, sign]

end DateTemplate.Decimal
