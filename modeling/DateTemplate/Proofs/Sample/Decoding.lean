import DateTemplate.Proofs.Calendar.Range
import DateTemplate.Proofs.Template.Echo
import DateTemplate.Proofs.Text.Bytes
import DateTemplate.Sample

/-!
# Bytes and samples

* `Sample.bigEndian_bytes`, `Sample.text?_eq_some_iff`: numbers and texts as bytes, and back.
* `Sample.decode_cases`: the sample that bytes stand for, or why they stand for none.
* `Sample.encodable_of_decode`, `Sample.decode_encode_append`: the samples that bytes stand for.
* `Sample.exists_instant?_eq_some`, `Sample.value_exercise`: what a sample is tried out with, and how that
  ends.
* `Sample.decode_exercise`: all of this for any bytes and any sample.
-/

namespace DateTemplate.Sample

open Bytes

/-! ## Numbers -/

theorem bigEndian_append (bs : List UInt8) (b : UInt8) :
    bigEndian (bs ++ [b]) = 256 * bigEndian bs + b.toNat := by
  simp [bigEndian]

theorem bigEndian_lt (bs : List UInt8) : bigEndian bs < 256 ^ bs.length := by
  induction bs using List.reverseRecOn with
  | nil => decide
  | append_singleton bs b ih =>
    have hb := b.toNat_lt
    rw [bigEndian_append, List.length_append, List.length_singleton, Nat.pow_succ]
    omega

@[simp] theorem length_bytes (k n : Nat) : (bytes k n).length = k := by
  induction k generalizing n with
  | zero => rfl
  | succ k ih => simp [bytes, ih]

/-- The last `k` bytes of a number keep its remainder. -/
theorem bigEndian_bytes (k n : Nat) : bigEndian (bytes k n) = n % 256 ^ k := by
  induction k generalizing n with
  | zero => rw [Nat.pow_zero, Nat.mod_one]; rfl
  | succ k ih =>
    rw [bytes, bigEndian_append, ih, Nat.pow_succ, Nat.mul_comm (256 ^ k), Nat.mod_mul,
      UInt8.toNat_ofNat', Nat.add_comm]

theorem bigEndian_bytes_of_lt {k n : Nat} (h : n < 256 ^ k) : bigEndian (bytes k n) = n := by
  rw [bigEndian_bytes, Nat.mod_eq_of_lt h]

/-! ## Texts -/

theorem toByteArray_eq (text : String) : text.toByteArray = ⟨(utf8 text.toList).toArray⟩ := by
  rw [← String.utf8Encode_toList, List.utf8Encode]
  exact ByteArray.ext List.data_toByteArray

/-- Bytes are a text exactly if they are its UTF-8 form. -/
theorem text?_eq_some_iff (bs : List UInt8) (text : String) :
    text? bs = some text ↔ utf8 text.toList = bs := by
  constructor
  · intro h
    unfold text? String.fromUTF8? at h
    split at h
    · obtain rfl := Option.some.inj h
      have harray := congrArg ByteArray.data (toByteArray_eq (String.fromUTF8 _ ‹_›))
      exact (List.toArray_inj harray).symm
    · cases h
  · rintro rfl
    unfold text? String.fromUTF8?
    rw [← toByteArray_eq, dif_pos text.isValidUTF8]
    rfl

theorem eq_of_templateBytes {s s' : Sample} (hseconds : s.seconds = s'.seconds) (hhours : s.hours = s'.hours)
    (htemplate : s.templateBytes = s'.templateBytes) : s = s' := by
  obtain ⟨seconds, hours, ⟨text⟩⟩ := s
  have htext := (text?_eq_some_iff _ text).2 htemplate
  obtain rfl : s'.template.text = text :=
    Option.some.inj (((text?_eq_some_iff _ s'.template.text).2 rfl).symm.trans htext)
  rw [mk.injEq]
  exact ⟨hseconds, hhours, rfl⟩

/-! ## Decoding -/

/-- The length of the template that bytes ask for. -/
def templateLength (bs : List UInt8) : Nat := bigEndian ((bs.drop 6).take 1)

theorem templateLength_lt (bs : List UInt8) : templateLength bs < 256 := by
  have hlt := bigEndian_lt ((bs.drop 6).take 1)
  have hlen : ((bs.drop 6).take 1).length ≤ 1 := List.length_take_le 1 _
  exact Nat.lt_of_lt_of_le hlt (Nat.pow_le_pow_right (by decide) hlen)

theorem decode_eq (bs : List UInt8) : decode bs =
    if (bs.drop 7).length < templateLength bs then .error .notEnoughData
    else (text? ((bs.drop 7).take (templateLength bs))).elim (.error .incorrectFormat) fun text =>
      .ok ⟨Instant.firstSecond + (bigEndian (bs.take 5) % secondCount : Nat),
        (bigEndian ((bs.drop 5).take 1) % 51 : Nat) - 25, ⟨text⟩⟩ := by
  have hlength : ((bs.drop 7).take (templateLength bs)).length < templateLength bs ↔
      (bs.drop 7).length < templateLength bs := by
    rw [List.length_take]
    omega
  rw [← if_congr hlength rfl rfl]
  unfold decode templateLength
  dsimp only
  cases text? ((bs.drop 7).take (bigEndian ((bs.drop 6).take 1))) <;> rfl

/-- The sample that bytes stand for, or the reason why they stand for none. -/
theorem decode_cases (bs : List UInt8) :
    (decode bs = .error .notEnoughData ∧ (bs.drop 7).length < templateLength bs) ∨
    (decode bs = .error .incorrectFormat ∧ templateLength bs ≤ (bs.drop 7).length ∧
      ∀ text : String, utf8 text.toList ≠ (bs.drop 7).take (templateLength bs)) ∨
    ∃ s : Sample, decode bs = .ok s ∧ templateLength bs ≤ (bs.drop 7).length ∧
      s.templateBytes = (bs.drop 7).take (templateLength bs) ∧
      s.seconds = Instant.firstSecond + (bigEndian (bs.take 5) % secondCount : Nat) ∧
      s.hours = (bigEndian ((bs.drop 5).take 1) % 51 : Nat) - 25 := by
  have hdecode := decode_eq bs
  by_cases hlt : (bs.drop 7).length < templateLength bs
  · exact .inl ⟨hdecode.trans (if_pos hlt), hlt⟩
  · have hle := Nat.le_of_not_lt hlt
    rw [if_neg hlt] at hdecode
    cases htext : text? ((bs.drop 7).take (templateLength bs)) with
    | none =>
      rw [htext, Option.elim_none] at hdecode
      refine .inr (.inl ⟨hdecode, hle, fun text h => ?_⟩)
      rw [(text?_eq_some_iff _ text).2 h] at htext
      cases htext
    | some text =>
      rw [htext, Option.elim_some] at hdecode
      exact .inr (.inr ⟨_, hdecode, hle, (text?_eq_some_iff _ text).1 htext, rfl, rfl⟩)

theorem secondCount_eq : (secondCount : Int) = Instant.lastSecond - Instant.firstSecond + 1 := by decide

theorem encodable_of_decode {bs : List UInt8} {s : Sample} (h : decode bs = .ok s) : s.Encodable := by
  rcases decode_cases bs with ⟨herr, -⟩ | ⟨herr, -⟩ | ⟨s', hok, hle, htemplate, hseconds, hhours⟩
  · rw [h] at herr
    cases herr
  · rw [h] at herr
    cases herr
  · obtain rfl : s = s' := Except.ok.inj (h.symm.trans hok)
    have hcount := secondCount_eq
    have hmod := Nat.mod_lt (bigEndian (bs.take 5)) (show 0 < secondCount by decide)
    have hlt := templateLength_lt bs
    exact {
      firstSecond_le := by omega
      le_lastSecond := by omega
      neg_limit_le := by omega
      le_limit := by omega
      length_lt := by
        rw [htemplate, List.length_take]
        omega }

/-! ## Encoding -/

section Encoding

variable {s : Sample} (h : s.Encodable) (rest : List UInt8)

theorem drop_encode : (s.encode ++ rest).drop 7 = s.templateBytes ++ rest := by
  simp [encode, List.drop_append, List.drop_of_length_le]

include h

theorem toNat_seconds_lt : (s.seconds - Instant.firstSecond).toNat < secondCount := by
  have hge := h.firstSecond_le
  have hle := h.le_lastSecond
  have hcount := secondCount_eq
  omega

theorem bigEndian_seconds_encode :
    bigEndian ((s.encode ++ rest).take 5) = (s.seconds - Instant.firstSecond).toNat := by
  have hbytes : (s.encode ++ rest).take 5 = bytes 5 (s.seconds - Instant.firstSecond).toNat := by
    simp [encode]
  have hcount : secondCount ≤ 256 ^ 5 := by decide
  rw [hbytes, bigEndian_bytes_of_lt (Nat.lt_of_lt_of_le (toNat_seconds_lt h) hcount)]

theorem bigEndian_hours_encode :
    bigEndian (((s.encode ++ rest).drop 5).take 1) = (s.hours + 25).toNat := by
  have hbytes : ((s.encode ++ rest).drop 5).take 1 = bytes 1 (s.hours + 25).toNat := by simp [encode]
  have hle := h.le_limit
  rw [hbytes, bigEndian_bytes_of_lt (by omega)]

theorem templateLength_encode : templateLength (s.encode ++ rest) = s.templateBytes.length := by
  have hbytes : ((s.encode ++ rest).drop 6).take 1 = bytes 1 s.templateBytes.length := by
    simp [encode, List.drop_append, List.drop_of_length_le]
  rw [templateLength, hbytes, bigEndian_bytes_of_lt h.length_lt]

/-- A sample is found again from its bytes. Bytes behind these do not matter. -/
theorem decode_encode_append : decode (s.encode ++ rest) = .ok s := by
  have hlength := templateLength_encode h rest
  have htake : (s.templateBytes ++ rest).take s.templateBytes.length = s.templateBytes := List.take_left
  rcases decode_cases (s.encode ++ rest) with ⟨-, hlt⟩ | ⟨-, -, hne⟩ | ⟨s', hok, -, hs'⟩
  · rw [drop_encode, hlength, List.length_append] at hlt
    omega
  · rw [drop_encode, hlength, htake] at hne
    exact absurd rfl (hne s.template.text)
  · rw [drop_encode, hlength, htake, bigEndian_seconds_encode h, bigEndian_hours_encode h,
      Nat.mod_eq_of_lt (toNat_seconds_lt h)] at hs'
    obtain ⟨htemplate, hseconds, hhours⟩ := hs'
    have h₁ := h.firstSecond_le
    have h₂ := h.neg_limit_le
    have h₃ := h.le_limit
    have heq : s' = s := eq_of_templateBytes (by omega) (by omega) htemplate
    rw [hok, heq]

end Encoding

/-! ## The instant of a sample -/

theorem exists_instant?_eq_some {s : Sample} (h : s.Encodable) : ∃ z, s.instant? = some z ∧
    z.nanoseconds = s.seconds * 1000000000 ∧ z.offset.seconds = s.hours * 3600 := by
  have h₁ := h.firstSecond_le
  have h₂ := h.le_lastSecond
  have h₃ := h.neg_limit_le
  have h₄ := h.le_limit
  have hoffset : -93599 ≤ s.offsetSeconds ∧ s.offsetSeconds ≤ 93599 := by
    unfold offsetSeconds
    omega
  have hnanoseconds : Instant.firstSecond * 1000000000 ≤ s.seconds * 1000000000 + 0 ∧
      s.seconds * 1000000000 + 0 < (Instant.lastSecond + 1) * 1000000000 := by omega
  have hsecond : Instant.firstSecond ≤ s.seconds ∧ s.seconds ≤ Instant.lastSecond ∧
      (0 : Int).natAbs < 1000000000 := ⟨h₁, h₂, by decide⟩
  refine ⟨⟨s.seconds * 1000000000 + 0, ⟨s.offsetSeconds, hoffset.1, hoffset.2⟩, none, hnanoseconds.1,
    hnanoseconds.2⟩, ?_, Int.add_zero _, rfl⟩
  rw [instant?, Offset.ofSeconds?, dif_pos hoffset, Option.bind_eq_bind, Option.bind_some, Instant.ofUnix?,
    guard, if_pos hsecond]
  exact dif_pos hnanoseconds

/-! ## Trying a sample out -/

theorem value_exercise (s : Sample) (z : Instant) : (s.exercise z).value = true := by
  have hvalue : (s.exercise z).value =
      (s.template.text.contains '%' || decide (s.template.format z = s.template.text)) := rfl
  rw [hvalue, String.contains_char_eq, Bool.or_eq_true, decide_eq_true_iff, decide_eq_true_iff]
  by_cases h : '%' ∈ s.template.text.toList
  · exact .inl h
  · refine .inr (Template.format_eq_text fun p hp => ?_)
    rw [Template.specifiers_eq_nil h] at hp
    cases hp

/-- **Samples.** Bytes stand for a sample unless they end within the template or the template is not UTF-8.
The sample has an instant, with a local date in the years of the calendar, and a template without specifiers
is shown as it is. Every sample whose numbers are in range and whose template is short enough is one that
bytes stand for. -/
theorem decode_exercise :
    (∀ bs : List UInt8,
      (decode bs = .error .notEnoughData ∧ (bs.drop 7).length < templateLength bs) ∨
      (decode bs = .error .incorrectFormat ∧ templateLength bs ≤ (bs.drop 7).length ∧
        ∀ text : String, utf8 text.toList ≠ (bs.drop 7).take (templateLength bs)) ∨
      ∃ s z, decode bs = .ok s ∧ s.Encodable ∧ s.instant? = some z ∧
        z.nanoseconds = s.seconds * 1000000000 ∧ z.offset.seconds = s.hours * 3600 ∧
        Date.firstYear ≤ z.date.year ∧ z.date.year ≤ Date.lastYear ∧ (s.exercise z).value = true) ∧
    ∀ s : Sample, (∃ bs, decode bs = .ok s) ↔ s.Encodable := by
  constructor
  · intro bs
    rcases decode_cases bs with h | h | ⟨s, hs, -⟩
    · exact .inl h
    · exact .inr (.inl h)
    · have hencodable := encodable_of_decode hs
      obtain ⟨z, hz, hnanoseconds, hoffset⟩ := exists_instant?_eq_some hencodable
      exact .inr (.inr ⟨s, z, hs, hencodable, hz, hnanoseconds, hoffset, z.firstYear_le_year,
        z.year_le_lastYear, value_exercise s z⟩)
  · intro s
    constructor
    · rintro ⟨bs, hs⟩
      exact encodable_of_decode hs
    · intro h
      exact ⟨s.encode ++ [], decode_encode_append h []⟩

example : decode [] = .ok ⟨Instant.firstSecond, -25, ⟨""⟩⟩ := by rfl

end DateTemplate.Sample
