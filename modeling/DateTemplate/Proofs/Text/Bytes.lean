import DateTemplate.Text.Bytes
import Mathlib.Algebra.GroupWithZero.Nat
import Mathlib.Data.List.DropRight

/-!
# Reading bytes that are a text

* `exists_utf8EncodeChar_eq_cons`: the first byte of a character tells whether it is a digit or a
  blank.
* `utf8_of_isDigit`: a text of digits is as many bytes, which stand for the same number.
* `readDigits_append`: what a reader takes when digits come first. It goes on with the digits behind
  them until its limit.
* `skipBlanks_eq_self`, `skipBlanks_append`: which blanks a reader passes over.
* `exists_of_readTwoDigits`, `drop?_append`: two digits, and a text that comes first.
-/

namespace DateTemplate.Bytes

/-! ## UTF-8 -/

@[simp] theorem utf8_nil : utf8 [] = [] := rfl

@[simp] theorem utf8_cons (c : Char) (cs : List Char) :
    utf8 (c :: cs) = String.utf8EncodeChar c ++ utf8 cs := rfl

@[simp] theorem utf8_append (cs ds : List Char) : utf8 (cs ++ ds) = utf8 cs ++ utf8 ds := by
  simp [utf8]

theorem isDigit_iff {b : UInt8} : isDigit b ↔ 48 ≤ b.toNat ∧ b.toNat ≤ 57 := by
  simp [isDigit, UInt8.le_iff_toNat_le]

theorem isBlank_eq_false_of_lt {b : UInt8} (h : 32 < b.toNat) : isBlank b = false := by
  simp only [isBlank, Bool.or_eq_false_iff, decide_eq_false_iff_not, ← UInt8.toNat_inj]
  simp
  omega

theorem isDigit_char_iff {c : Char} : c.isDigit ↔ 48 ≤ c.val.toNat ∧ c.val.toNat ≤ 57 := by
  simp [Char.isDigit, UInt32.le_iff_toNat_le]

/-- A character of ASCII is one byte. -/
theorem utf8EncodeChar_of_lt {c : Char} (h : c.val.toNat < 128) :
    String.utf8EncodeChar c = [UInt8.ofNat c.val.toNat] := by
  rw [String.utf8EncodeChar]
  exact if_pos (Nat.le_of_lt_succ h)

/-- The first byte of any other character is outside of ASCII. -/
theorem utf8EncodeChar_of_le {c : Char} (h : 128 ≤ c.val.toNat) :
    ∃ b bs, String.utf8EncodeChar c = b :: bs ∧ 128 ≤ b.toNat := by
  fun_cases String.utf8EncodeChar c
  · omega
  all_goals
    refine ⟨_, _, rfl, ?_⟩
    rw [UInt8.toNat_ofNat']
    omega

/-- The first byte of a character tells whether the character is a digit, and whether it is a
blank. -/
theorem exists_utf8EncodeChar_eq_cons (c : Char) :
    ∃ b bs, String.utf8EncodeChar c = b :: bs ∧ isDigit b = c.isDigit ∧
      isBlank b = (String.utf8EncodeChar c).all isBlank := by
  rcases Nat.lt_or_ge c.val.toNat 128 with h | h
  · refine ⟨_, [], utf8EncodeChar_of_lt h, ?_, ?_⟩
    · rw [Bool.eq_iff_iff, isDigit_iff, isDigit_char_iff, UInt8.toNat_ofNat']
      omega
    · simp [utf8EncodeChar_of_lt h]
  · obtain ⟨b, bs, hb, hle⟩ := utf8EncodeChar_of_le h
    refine ⟨b, bs, hb, ?_, ?_⟩
    · rw [Bool.eq_iff_iff, isDigit_iff, isDigit_char_iff]
      omega
    · simp [hb, isBlank_eq_false_of_lt (show 32 < b.toNat by omega)]

/-! ## Texts of digits -/

theorem utf8EncodeChar_of_isDigit {c : Char} (h : c.isDigit) :
    ∃ b, String.utf8EncodeChar c = [b] ∧ isDigit b ∧ b.toNat = c.toNat := by
  have hc := isDigit_char_iff.1 h
  refine ⟨_, utf8EncodeChar_of_lt (by omega), ?_, ?_⟩
  · rw [isDigit_iff, UInt8.toNat_ofNat']
    omega
  · rw [UInt8.toNat_ofNat']
    exact Nat.mod_eq_of_lt (by omega)

/-- A text of digits is as many bytes, which are digits and stand for the same number. -/
theorem utf8_of_isDigit {cs : List Char} (h : ∀ c ∈ cs, c.isDigit) :
    (∀ b ∈ utf8 cs, isDigit b) ∧ (utf8 cs).length = cs.length ∧
      value (utf8 cs) = Nat.ofDigitChars 10 cs 0 := by
  have hfold (n : Nat) : (utf8 cs).foldl (fun n b => 10 * n + (b.toNat - 48)) n =
      Nat.ofDigitChars 10 cs n := by
    induction cs generalizing n with
    | nil => rfl
    | cons c cs ih =>
      obtain ⟨b, hb, -, hn⟩ := utf8EncodeChar_of_isDigit (h c List.mem_cons_self)
      rw [utf8_cons, hb, List.singleton_append, List.foldl_cons,
        ih fun d hd => h d (List.mem_cons_of_mem c hd), Nat.ofDigitChars_cons, hn]
      rfl
  refine ⟨?_, ?_, hfold 0⟩
  · intro b hb
    obtain ⟨c, hc, hb⟩ := List.mem_flatMap.1 hb
    obtain ⟨b', hb', hd, -⟩ := utf8EncodeChar_of_isDigit (h c hc)
    rw [hb', List.mem_singleton] at hb
    rwa [hb]
  · clear hfold
    induction cs with
    | nil => rfl
    | cons c cs ih =>
      obtain ⟨b, hb, -⟩ := utf8EncodeChar_of_isDigit (h c List.mem_cons_self)
      simp [hb, ih fun d hd => h d (List.mem_cons_of_mem c hd)]

/-! ## Reading digits -/

/-- Whether the bytes begin with a digit. -/
def startsWithDigit (bs : List UInt8) : Bool := bs.head?.any isDigit

theorem startsWithDigit_utf8_cons (c : Char) (cs : List Char) (rest : List UInt8) :
    startsWithDigit (utf8 (c :: cs) ++ rest) = c.isDigit := by
  obtain ⟨b, bs, hb, hd, -⟩ := exists_utf8EncodeChar_eq_cons c
  simp [startsWithDigit, hb, hd]

theorem leadingDigits_eq_nil {bs : List UInt8} (h : ¬ startsWithDigit bs) (limit : Nat) :
    leadingDigits limit bs = [] := by
  cases bs with
  | nil => simp [leadingDigits]
  | cons b bs =>
    cases limit with
    | zero => simp [leadingDigits]
    | succ n =>
      have hb : isDigit b = false := by simpa [startsWithDigit] using h
      simp [leadingDigits, hb]

theorem startsWithDigit_of_leadingDigits_ne_nil {bs : List UInt8} {limit : Nat}
    (h : leadingDigits limit bs ≠ []) : startsWithDigit bs :=
  Decidable.byContradiction fun hn => h (leadingDigits_eq_nil hn limit)

theorem leadingDigits_ne_nil {bs : List UInt8} {limit : Nat} (h : startsWithDigit bs)
    (hl : 0 < limit) : leadingDigits limit bs ≠ [] := by
  obtain ⟨n, rfl⟩ := Nat.exists_eq_add_one_of_ne_zero (Nat.ne_of_gt hl)
  cases bs with
  | nil => simp [startsWithDigit] at h
  | cons b bs =>
    have hb : isDigit b := by simpa [startsWithDigit] using h
    simp [leadingDigits, hb]

theorem leadingDigits_eq_nil_iff {bs : List UInt8} {limit : Nat} :
    leadingDigits limit bs = [] ↔ ¬ (0 < limit ∧ startsWithDigit bs) := by
  constructor
  · rintro h ⟨hl, hs⟩
    exact leadingDigits_ne_nil hs hl h
  · intro h
    rcases Nat.eq_zero_or_pos limit with rfl | hl
    · simp [leadingDigits]
    · exact leadingDigits_eq_nil (fun hs => h ⟨hl, hs⟩) limit

theorem leadingDigits_append {limit : Nat} {ds : List UInt8} (hd : ∀ b ∈ ds, isDigit b)
    (hl : ds.length ≤ limit) (rest : List UInt8) :
    leadingDigits limit (ds ++ rest) = ds ++ leadingDigits (limit - ds.length) rest := by
  rw [leadingDigits, List.take_append, List.take_of_length_le hl,
    List.takeWhile_append_of_pos hd]
  rfl

/-- **Greedy digits.** A reader that has room for the digits `ds` takes them and goes on with the
digits that come behind them. -/
theorem readDigits_append {limit : Nat} {ds : List UInt8} (hne : ds ≠ [])
    (hd : ∀ b ∈ ds, isDigit b) (hl : ds.length ≤ limit) (rest : List UInt8) :
    readDigits limit (ds ++ rest) = some (ds ++ leadingDigits (limit - ds.length) rest,
      rest.drop (leadingDigits (limit - ds.length) rest).length) := by
  rw [readDigits, leadingDigits_append hd hl]
  split
  · rename_i h
    exact absurd (List.append_eq_nil_iff.1 h).1 hne
  · simp [List.drop_append]

theorem startsWithDigit_of_readDigits {limit : Nat} {bs : List UInt8} {r : List UInt8 × List UInt8}
    (h : readDigits limit bs = some r) : startsWithDigit bs := by
  unfold readDigits at h
  split at h
  · cases h
  · exact startsWithDigit_of_leadingDigits_ne_nil ‹_›

theorem value_append (ds es : List UInt8) :
    value (ds ++ es) = 10 ^ es.length * value ds + value es := by
  have hfold (n : Nat) : es.foldl (fun n b => 10 * n + (b.toNat - 48)) n =
      10 ^ es.length * n + value es := by
    unfold value
    induction es generalizing n with
    | nil => simp
    | cons b es ih =>
      rw [List.foldl_cons, ih, List.foldl_cons, ih (10 * 0 + _), List.length_cons, Nat.pow_succ]
      grind
  rw [value, List.foldl_append, hfold]
  rfl

theorem value_replicate_zero (k : Nat) : value (.replicate k 48) = 0 := by
  induction k with
  | zero => rfl
  | succ k ih => exact ih

/-! ## Blanks -/

theorem skipBlanks_eq_self {b : UInt8} (h : isBlank b = false) (bs : List UInt8) :
    skipBlanks (b :: bs) = b :: bs := by
  simp [skipBlanks, h]

theorem isBlank_eq_false_of_isDigit {b : UInt8} (h : isDigit b) : isBlank b = false :=
  isBlank_eq_false_of_lt (by have := isDigit_iff.1 h; omega)

theorem skipBlanks_of_startsWithDigit {bs : List UInt8} (h : startsWithDigit bs) :
    skipBlanks bs = bs := by
  cases bs with
  | nil => rfl
  | cons b bs =>
    have hb : isDigit b := by simpa [startsWithDigit] using h
    exact skipBlanks_eq_self (isBlank_eq_false_of_isDigit hb) bs

@[simp] theorem skipBlanks_skipBlanks (bs : List UInt8) :
    skipBlanks (skipBlanks bs) = skipBlanks bs :=
  List.dropWhile_idempotent isBlank bs

theorem isBlank_of_mem_utf8 {cs : List Char} (h : ∀ c ∈ cs, c = ' ') : ∀ b ∈ utf8 cs, isBlank b := by
  intro b hb
  obtain ⟨c, hc, hb⟩ := List.mem_flatMap.1 hb
  obtain rfl := h c hc
  obtain rfl : b = 32 := List.mem_singleton.1 hb
  decide

theorem skipBlanks_append {cs : List UInt8} (h : ∀ b ∈ cs, isBlank b) (bs : List UInt8) :
    skipBlanks (cs ++ bs) = skipBlanks bs :=
  List.dropWhile_append_of_pos h

/-! ## Signs and names -/

theorem readSign_of_startsWithDigit {bs : List UInt8} (h : startsWithDigit bs) :
    readSign bs = none := by
  unfold readSign
  split
  · exact absurd h (by simp [startsWithDigit, isDigit])
  · exact absurd h (by simp [startsWithDigit, isDigit])
  · rfl

theorem exists_of_readTwoDigits {bs : List UInt8} (h : (readTwoDigits bs).isSome) :
    ∃ a b rest, bs = a :: b :: rest ∧ isDigit a ∧ isDigit b := by
  unfold readTwoDigits at h
  split at h
  · split at h <;> simp_all
  · cases h

theorem eq_drop_of_readTwoDigits {bs rest : List UInt8} {n : Nat}
    (h : readTwoDigits bs = some (n, rest)) : rest = bs.drop 2 := by
  obtain ⟨a, b, bs, rfl, ha, hb⟩ := exists_of_readTwoDigits (Option.isSome_of_eq_some h)
  simp_all [readTwoDigits]

theorem startsWithDigit_of_readTwoDigits {bs : List UInt8} (h : (readTwoDigits bs).isSome) :
    startsWithDigit bs := by
  obtain ⟨a, b, bs, rfl, ha, -⟩ := exists_of_readTwoDigits h
  simpa [startsWithDigit] using ha

theorem drop?_append (key : UInt8 → UInt8) (text bs : List UInt8) :
    drop? key text (text ++ bs) = some bs := by
  induction text with
  | nil => rfl
  | cons t text ih => simpa [drop?] using ih

end DateTemplate.Bytes
