import DateTemplate.Field.Entry
import DateTemplate.Field.Read
import DateTemplate.Field.Render
import DateTemplate.Proofs.Calendar.Range
import DateTemplate.Proofs.Text.Decimal
import Mathlib.Data.Option.Basic

/-!
# Reading back the text of a field

* `Field.Readable`: whether the text of a field tells the field, for an instant.
* `Field.overrun`: what a reader takes on top of the text of a field, because it looks like more of
  it.
* `Quantity.read?_render`: what a reader makes of a number, with the digits that it takes on top.
* `Field.read?_render`: without an overrun, a reader finds what the field tells and leaves what comes
  behind it. `Field.eq_drop_of_read?_render`: otherwise it leaves that without the overrun.
* `Field.year_ne_of_read?_render`: with an overrun a negative year is read as another one.
-/

namespace DateTemplate

open Bytes

/-! ## What a reader takes -/

namespace Field

/-- Whether the text of the field tells the field. Two digits of a year are enough for the years from
1969 to 2068, an offset must not have seconds, and the sign of a year must come first. -/
def Readable (z : Instant) : Field → Prop
  | number .yearOfCentury _ => 1969 ≤ z.date.year ∧ z.date.year ≤ 2068
  | number .year p => p ≠ .spaces
  | offset => z.offset.restSeconds = 0
  | zoneName => False
  | _ => True

/-- How many digits a reader takes for the field at most. -/
def digitLimit : Field → Nat
  | number q _ => q.width
  | fraction _ => 9
  | _ => 0

/-- How many digits a reader would take on top of those in the text of the field. -/
def spareDigits (z : Instant) (f : Field) : Nat :=
  f.digitLimit - (f.render z).countP Char.isDigit

/-- What a reader takes on top of the text of the field when `rest` comes behind it: digits up to its
limit, and for an offset two digits or none. -/
def overrun (z : Instant) (rest : List UInt8) : Field → List UInt8
  | offset => if (readTwoDigits rest).isSome then rest.take 2 else []
  | f => leadingDigits (f.spareDigits z) rest

end Field

/-! ## Numbers -/

namespace Quantity

/-- The entry that a number makes behind a sign or none. -/
def signedEntry? (negative : Bool) (n : Nat) : Quantity → Option Entry
  | year => some (.year (if negative then -n else n))
  | q => q.entry? n

theorem natAbs_value_lt (z : Instant) (q : Quantity) : (q.value z).natAbs < 10 ^ q.width := by
  have := z.firstYear_le_year
  have := z.year_le_lastYear
  have := z.date.day_le
  have := z.date.dayOfYear_le_366
  have := z.time.hour_lt
  have := z.time.hour12_le
  have := z.time.minute_lt
  have := z.time.second_lt
  have hm : z.date.month.number ≤ 12 := by cases z.date.month <;> decide
  have hy : (z.date.year.tmod 100).natAbs < 100 := by
    rw [Int.natAbs_tmod]
    exact Nat.mod_lt _ (by decide)
  cases q <;> simp only [value, width, Date.firstYear, Date.lastYear] at * <;> omega

theorem width_pos (q : Quantity) : 0 < q.width := by cases q <;> decide

/-- Only a year can be negative. -/
theorem value_nonneg {z : Instant} {q : Quantity} {p : Padding}
    (hr : (Field.number q p).Readable z) (hq : q ≠ .year) : 0 ≤ q.value z := by
  cases q with
  | year => exact absurd rfl hq
  | yearOfCentury => exact Int.tmod_nonneg 100 (Int.le_trans (by decide) hr.1)
  | _ => simp [value]

/-- Digits are read behind blanks, up to the quantity's width. -/
theorem readNumber?_append {q : Quantity} {blanks : List UInt8} (hb : ∀ b ∈ blanks, isBlank b)
    {w n : Nat} (hw : max w (Decimal.digitCount n) ≤ q.width) (rest : List UInt8) :
    q.readNumber? (blanks ++ (utf8 (Decimal.padded .zero w n) ++ rest)) =
      some (10 ^ (leadingDigits (q.width - max w (Decimal.digitCount n)) rest).length * n +
          Bytes.value (leadingDigits (q.width - max w (Decimal.digitCount n)) rest),
        rest.drop (leadingDigits (q.width - max w (Decimal.digitCount n)) rest).length) := by
  have hskip : skipBlanks (blanks ++ (utf8 (Decimal.padded .zero w n) ++ rest)) =
      utf8 (Decimal.padded .zero w n) ++ rest := by
    rw [skipBlanks_append hb]
    exact skipBlanks_of_startsWithDigit (Decimal.startsWithDigit_padded w n rest)
  simp [readNumber?, hskip, Decimal.readDigits_padded hw, value_append]

/-- The text of a number is a minus sign or spaces, and then its digits. -/
theorem exists_render_eq {z : Instant} {q : Quantity} {p : Padding}
    (hr : (Field.number q p).Readable z) :
    ∃ lead w, p.render q.width (q.value z) = lead ++ Decimal.padded .zero w (q.value z).natAbs ∧
      w ≤ q.width ∧ (q.value z < 0 ∧ q = .year ∧ lead = ['-'] ∨
        0 ≤ q.value z ∧ (∀ c ∈ lead, c = ' ') ∧ (q = .year → lead = [])) := by
  rcases Int.lt_or_le (q.value z) 0 with hneg | hnonneg
  · have hq : q = .year := Decidable.byContradiction fun hq => by
      have := value_nonneg hr hq
      omega
    subst hq
    cases p with
    | zeros => exact ⟨['-'], 3, Decimal.padded_of_neg 4 hneg, by decide, .inl ⟨hneg, rfl, rfl⟩⟩
    | spaces => exact absurd rfl hr
    | none => exact ⟨['-'], 0, Decimal.padded_of_neg 0 hneg, by decide, .inl ⟨hneg, rfl, rfl⟩⟩
  · have habs : q.value z = (q.value z).natAbs := by omega
    cases p with
    | zeros =>
      refine ⟨[], q.width, ?_, Nat.le_refl _, .inr ⟨hnonneg, by simp⟩⟩
      rw [Padding.render, ← habs]
      rfl
    | spaces =>
      have hq : q ≠ .year := by
        rintro rfl
        exact absurd rfl hr
      refine ⟨.replicate (q.width - Decimal.digitCount (q.value z).natAbs) ' ', 0, ?_, Nat.zero_le _,
        .inr ⟨hnonneg, fun c hc => List.eq_of_mem_replicate hc, fun h => absurd h hq⟩⟩
      rw [Padding.render, habs, Decimal.padded_space, Int.natAbs_natCast]
    | none =>
      refine ⟨[], 0, ?_, Nat.zero_le _, .inr ⟨hnonneg, by simp⟩⟩
      rw [Padding.render, ← habs]
      rfl

theorem read?_of_ne_year {q : Quantity} (hq : q ≠ .year) (bs : List UInt8) :
    q.read? bs = (q.readNumber? bs).bind fun r => (q.entry? r.1).map fun e => (e, r.2) := by
  have hmap (o : Option Entry) (rest : List UInt8) :
      (o.bind fun e => some (e, rest)) = o.map fun e => (e, rest) := by cases o <;> rfl
  cases q <;> simp_all [read?]

theorem read?_year_of_sign {bs rest : List UInt8} {negative : Bool}
    (h : (readSign bs).getD (false, bs) = (negative, rest)) :
    year.read? bs = (year.readNumber? rest).map fun r =>
      (.year (if negative then -r.1 else r.1), r.2) := by
  simp only [read?, h]
  cases year.readNumber? rest <;> rfl

/-- A reader takes the text of a number and any overrun, and makes one number of them. -/
theorem read?_render {z : Instant} {q : Quantity} {p : Padding}
    (hr : (Field.number q p).Readable z) (rest : List UInt8) :
    q.read? (utf8 ((Field.number q p).render z) ++ rest) =
      (q.signedEntry? (q.value z < 0)
        (10 ^ ((Field.number q p).overrun z rest).length * (q.value z).natAbs +
          Bytes.value ((Field.number q p).overrun z rest))).map
        fun e => (e, rest.drop ((Field.number q p).overrun z rest).length) := by
  obtain ⟨lead, w, htext, hw, hlead⟩ := exists_render_eq hr
  have hmax : max w (Decimal.digitCount (q.value z).natAbs) ≤ q.width :=
    Nat.max_le.2 ⟨hw, Decimal.digitCount_le q.width_pos (natAbs_value_lt z q)⟩
  have hcount : lead.countP Char.isDigit = 0 := by
    rw [List.countP_eq_zero]
    intro c hc
    rcases hlead with ⟨-, -, rfl⟩ | ⟨-, hspace, -⟩
    · simp_all
    · rw [hspace c hc]
      decide
  have hover : (Field.number q p).overrun z rest =
      leadingDigits (q.width - max w (Decimal.digitCount (q.value z).natAbs)) rest := by
    simp only [Field.overrun, Field.spareDigits, Field.digitLimit, Field.render, htext,
      List.countP_append, hcount, Decimal.countP_isDigit_padded, Nat.zero_add]
  have hnumber {blanks : List UInt8} (hb : ∀ b ∈ blanks, isBlank b) :=
    readNumber?_append hb hmax rest
  rw [Field.render, htext, utf8_append, List.append_assoc]
  rw [← hover] at hnumber
  generalize (Field.number q p).overrun z rest = digits at hnumber ⊢
  have hdigit := Decimal.startsWithDigit_padded w (q.value z).natAbs rest
  generalize utf8 (Decimal.padded .zero w (q.value z).natAbs) ++ rest = bs at hnumber hdigit ⊢
  rcases hlead with ⟨hneg, rfl, rfl⟩ | ⟨hnonneg, hspace, hyear⟩
  · have hsign : (readSign (utf8 ['-'] ++ bs)).getD (false, utf8 ['-'] ++ bs) = (true, bs) := rfl
    have hread := @hnumber [] (by simp)
    rw [List.nil_append] at hread
    rw [read?_year_of_sign hsign, hread]
    simp [Quantity.signedEntry?, hneg]
  · have hpos : ¬ q.value z < 0 := by omega
    have hread := hnumber (isBlank_of_mem_utf8 hspace)
    by_cases hq : q = .year
    · subst hq
      obtain rfl := hyear rfl
      have hsign : (readSign (utf8 [] ++ bs)).getD (false, utf8 [] ++ bs) = (false, utf8 [] ++ bs) := by
        rw [utf8_nil, List.nil_append, readSign_of_startsWithDigit hdigit]
        rfl
      rw [read?_year_of_sign hsign, hread]
      simp [Quantity.signedEntry?, hpos]
    · have hentry (n : Nat) : q.signedEntry? (q.value z < 0) n = q.entry? n := by
        cases q <;> first | rfl | exact absurd rfl hq
      rw [read?_of_ne_year hq, hread, Option.bind_some, hentry]

/-- A number that is read without an overrun is what it tells of the instant. -/
theorem signedEntry?_natAbs {z : Instant} {q : Quantity} {p : Padding}
    (hr : (Field.number q p).Readable z) :
    q.signedEntry? (q.value z < 0) (q.value z).natAbs = some (q.entry z) := by
  have := z.date.one_le_day
  have := z.date.day_le
  have := z.date.one_le_dayOfYear
  have := z.date.dayOfYear_le_366
  have := z.time.hour_lt
  have := z.time.one_le_hour12
  have := z.time.hour12_le
  have := z.time.minute_lt
  have := z.time.second_lt
  cases q with
  | year =>
    rcases Int.lt_or_le z.date.year 0 with hneg | hpos
    · have habs : -(z.date.year.natAbs : Int) = z.date.year := by omega
      simp only [Quantity.signedEntry?, value, entry, hneg, decide_true, if_true, habs]
    · have habs : (z.date.year.natAbs : Int) = z.date.year := by omega
      simp only [Quantity.signedEntry?, value, entry, Int.not_lt.2 hpos, decide_false,
        Bool.false_eq_true, if_false, habs]
  | yearOfCentury =>
    obtain ⟨hlow, hhigh⟩ := hr
    have hy : (z.date.year.tmod 100).natAbs = z.date.year.natAbs % 100 := Int.natAbs_tmod ..
    simp only [Quantity.signedEntry?, value, entry?, entry, hy, Option.some.injEq, Entry.year.injEq]
    split <;> omega
  | month => simp [Quantity.signedEntry?, value, entry?, entry]
  | _ =>
    simp only [Quantity.signedEntry?, value, entry?, entry, Int.natAbs_natCast]
    grind

end Quantity

/-! ## Offsets -/

namespace Offset

theorem readTwoDigits_padded {n : Nat} (h : n < 100) (rest : List UInt8) :
    readTwoDigits (utf8 (Decimal.padded .zero 2 n) ++ rest) = some (n, rest) := by
  have hd := (utf8_of_isDigit (Decimal.forall_isDigit_padded 2 n)).1
  have hlen : (utf8 (Decimal.padded .zero 2 n)).length = 2 := by
    rw [Decimal.length_utf8_padded]
    have := Decimal.digitCount_le (k := 2) (by decide) h
    omega
  have hvalue := Decimal.value_utf8_padded 2 n
  obtain ⟨a, b, hab⟩ := List.length_eq_two.1 hlen
  rw [hab] at hd hvalue ⊢
  simp [readTwoDigits, hd a, hd b, hvalue]

theorem readSign_signedHours (o : Offset) (rest : List UInt8) :
    readSign (utf8 o.signedHours ++ rest) =
      some (o.isWest, utf8 (Decimal.padded .zero 2 o.hours) ++ rest) := by
  unfold signedHours
  cases o.isWest <;> rfl

/-- The hours and the minutes are an offset again. -/
theorem ofSeconds?_distance {o : Offset} (ho : o.restSeconds = 0) :
    ofSeconds? (if o.isWest then -(o.hours * 3600 + o.minutes * 60 : Int)
      else o.hours * 3600 + o.minutes * 60) = some o := by
  have habs := o.natAbs_seconds
  have hseconds : (if o.isWest then -(o.hours * 3600 + o.minutes * 60 : Int)
      else o.hours * 3600 + o.minutes * 60) = o.seconds := by
    simp only [isWest, decide_eq_true_eq]
    split <;> omega
  rw [hseconds, ofSeconds?, dif_pos ⟨o.neg_limit_le, o.le_limit⟩]

theorem read?_render_of_none {o : Offset} (ho : o.restSeconds = 0) {rest : List UInt8}
    (h : readTwoDigits rest = none) : read? (utf8 o.render ++ rest) = some (o, rest) := by
  have hhours := o.hours_le
  have hminutes : o.minutes < 60 := Nat.mod_lt _ (by decide)
  simp only [render, ho, if_true, List.append_nil, utf8_append, List.append_assoc, read?,
    readSign_signedHours, readTwoDigits_padded (show o.hours < 100 by omega),
    readTwoDigits_padded (show o.minutes < 100 by omega), h, Option.bind_eq_bind, Option.bind_some]
  rw [(Option.guard_eq_some' ()).2 ⟨hhours, hminutes, by decide⟩, Option.bind_some,
    Int.natCast_zero, Int.add_zero, ofSeconds?_distance ho, Option.bind_some]
  rfl

theorem eq_drop_of_read?_render {o o' : Offset} (ho : o.restSeconds = 0) {rest bs : List UInt8}
    (h : (readTwoDigits rest).isSome) (hr : read? (utf8 o.render ++ rest) = some (o', bs)) :
    bs = rest.drop 2 := by
  have hhours := o.hours_le
  have hminutes : o.minutes < 60 := Nat.mod_lt _ (by decide)
  obtain ⟨⟨n, rest'⟩, hn⟩ := Option.isSome_iff_exists.1 h
  obtain rfl := eq_drop_of_readTwoDigits hn
  simp only [render, ho, if_true, List.append_nil, utf8_append, List.append_assoc, read?,
    readSign_signedHours, readTwoDigits_padded (show o.hours < 100 by omega),
    readTwoDigits_padded (show o.minutes < 100 by omega), hn, Option.bind_eq_bind, Option.bind_some]
    at hr
  split at hr
  · simp at hr
  · simp only [Option.bind_eq_some_iff] at hr
    obtain ⟨-, -, o'', -, hr⟩ := hr
    cases hr
    rfl

end Offset

/-! ## Fractions of a second -/

namespace Precision

theorem unit_eq (p : Precision) : p.unit = 10 ^ (9 - p.digits) := by
  cases p <;> rfl

theorem length_digits_render {n : Nat} (h : n < 1000000000) (p : Precision) :
    max p.digits (Decimal.digitCount (n / p.unit)) = p.digits := by
  refine Nat.max_eq_left (Decimal.digitCount_le (by cases p <;> decide) ?_)
  cases p <;> simp only [digits, unit] <;> omega

/-- A reader of a fraction takes its digits and any overrun. -/
theorem read?_render {n : Nat} (h : n < 1000000000) (p : Precision) (rest : List UInt8) :
    read? (utf8 (p.render n) ++ rest) =
      some (.nanosecond ((10 ^ (leadingDigits (9 - p.digits) rest).length * (n / p.unit) +
          value (leadingDigits (9 - p.digits) rest)) *
            10 ^ (9 - (p.digits + (leadingDigits (9 - p.digits) rest).length))),
        rest.drop (leadingDigits (9 - p.digits) rest).length) := by
  have hlen := length_digits_render h p
  have hle : max p.digits (Decimal.digitCount (n / p.unit)) ≤ 9 := by
    rw [hlen]
    cases p <;> decide
  have hread := Decimal.readDigits_padded hle rest
  rw [hlen] at hread
  simp only [read?, render, hread, Option.bind_eq_bind, Option.bind_some, value_append,
    value_replicate_zero, Decimal.value_utf8_padded, List.length_replicate, List.length_append,
    Decimal.length_utf8_padded, hlen]
  rw [Nat.add_zero, Nat.mul_comm (10 ^ (9 - _))]
  rfl

end Precision

/-! ## Names -/

theorem Weekday.readName_append (w : Weekday) (s : NameStyle) (rest : List UInt8) :
    readName all s.weekday (utf8 (s.weekday w).toList ++ rest) = some (w, rest) := by
  cases w <;> cases s <;> rfl

theorem Month.readName_append (m : Month) (s : NameStyle) (rest : List UInt8) :
    readName all s.month (utf8 (s.month m).toList ++ rest) = some (m, rest) := by
  cases m <;> cases s <;> rfl

theorem Meridiem.readName_append (m : Meridiem) (l : LetterCase) (rest : List UInt8) :
    readName all l.meridiem (utf8 (l.meridiem m).toList ++ rest) = some (m, rest) := by
  cases m <;> cases l <;> rfl

/-! ## Every field -/

namespace Field

theorem overrun_fraction (z : Instant) (p : Precision) (rest : List UInt8) :
    (fraction p).overrun z rest = leadingDigits (9 - p.digits) rest := by
  have hlen := Precision.length_digits_render z.time.nanosecond_lt p
  simp only [overrun, spareDigits, digitLimit, render, Precision.render,
    Decimal.countP_isDigit_padded, hlen]

theorem readTwoDigits_eq_none_of_overrun {z : Instant} {rest : List UInt8}
    (h : offset.overrun z rest = []) : readTwoDigits rest = none := by
  refine Option.not_isSome_iff_eq_none.1 fun hs => ?_
  obtain ⟨a, b, bs, rfl, -, -⟩ := exists_of_readTwoDigits hs
  simp [overrun, hs] at h

theorem startsWithDigit_of_overrun_ne_nil {z : Instant} {f : Field} {rest : List UInt8}
    (h : f.overrun z rest ≠ []) : startsWithDigit rest := by
  cases f with
  | offset =>
    simp only [overrun] at h
    split at h
    · exact startsWithDigit_of_readTwoDigits ‹_›
    · exact absurd rfl h
  | _ => exact startsWithDigit_of_leadingDigits_ne_nil h

theorem overrun_eq_nil {z : Instant} {rest : List UInt8} (h : ¬ startsWithDigit rest) (f : Field) :
    f.overrun z rest = [] :=
  Decidable.byContradiction fun ho => h (startsWithDigit_of_overrun_ne_nil ho)

/-- **Reading back a field.** Without an overrun a reader finds what the field tells, and leaves what
comes behind it. -/
theorem read?_render {z : Instant} {f : Field} (hr : f.Readable z) {rest : List UInt8}
    (ho : f.overrun z rest = []) :
    ∃ e, f.entry? z = some e ∧ f.read? (utf8 (f.render z) ++ rest) = some (e, rest) := by
  cases f with
  | number q p =>
    refine ⟨q.entry z, rfl, ?_⟩
    rw [Field.read?, Quantity.read?_render hr, ho]
    simp [value, Quantity.signedEntry?_natAbs hr]
  | fraction p =>
    refine ⟨_, rfl, ?_⟩
    rw [overrun_fraction] at ho
    rw [Field.read?, render, Precision.read?_render z.time.nanosecond_lt, ho]
    simp [value, Precision.truncate, Precision.unit_eq, Nat.mul_comm]
  | weekday s => exact ⟨_, rfl, by simp [Field.read?, render, Weekday.readName_append]⟩
  | month s => exact ⟨_, rfl, by simp [Field.read?, render, Month.readName_append]⟩
  | meridiem l => exact ⟨_, rfl, by simp [Field.read?, render, Meridiem.readName_append]⟩
  | offset =>
    have hnone := readTwoDigits_eq_none_of_overrun ho
    exact ⟨_, rfl, by simp [Field.read?, render, Offset.read?_render_of_none hr hnone]⟩
  | zoneName => exact hr.elim

/-- A reader that succeeds leaves what comes behind the field without the overrun. -/
theorem eq_drop_of_read?_render {z : Instant} {f : Field} (hr : f.Readable z)
    {rest bs : List UInt8} {e : Entry} (h : f.read? (utf8 (f.render z) ++ rest) = some (e, bs)) :
    bs = rest.drop (f.overrun z rest).length := by
  by_cases ho : f.overrun z rest = []
  · obtain ⟨e', -, h'⟩ := read?_render hr ho
    rw [h'] at h
    cases h
    rw [ho]
    rfl
  · cases f with
    | number q p =>
      rw [Field.read?, Quantity.read?_render hr, Option.map_eq_some_iff] at h
      obtain ⟨e', -, h⟩ := h
      cases h
      rfl
    | fraction p =>
      rw [Field.read?, render, Precision.read?_render z.time.nanosecond_lt] at h
      cases h
      rw [overrun_fraction]
    | offset =>
      have hs : (readTwoDigits rest).isSome := by
        refine Option.isSome_iff_ne_none.2 fun hn => ho ?_
        simp [overrun, hn]
      have hlen : 2 ≤ rest.length := by
        obtain ⟨a, b, bs, rfl, -, -⟩ := exists_of_readTwoDigits hs
        simp
      rw [Field.read?, Option.map_eq_some_iff] at h
      obtain ⟨⟨o, bs'⟩, h, heq⟩ := h
      cases heq
      rw [overrun, if_pos hs, List.length_take_of_le hlen]
      exact Offset.eq_drop_of_read?_render hr hs h
    | _ => exact absurd (by simp [overrun, spareDigits, digitLimit, leadingDigits]) ho

/-- With an overrun a negative year is read as another one. -/
theorem year_ne_of_read?_render {z : Instant} {p : Padding} (hr : (number .year p).Readable z)
    (hneg : z.date.year < 0) {rest bs : List UInt8} (ho : (number .year p).overrun z rest ≠ [])
    {e : Entry} (h : (number .year p).read? (utf8 ((number .year p).render z) ++ rest) = some (e, bs)) :
    ∃ n, e = .year n ∧ n ≠ z.date.year := by
  rw [Field.read?, Quantity.read?_render hr, Option.map_eq_some_iff] at h
  obtain ⟨e', he, h⟩ := h
  cases h
  have hlt : z.date.year < 0 := hneg
  simp only [Quantity.signedEntry?, Quantity.value, hlt, decide_true, if_true, Option.some.injEq] at he
  refine ⟨_, he.symm, ?_⟩
  -- Another digit makes the number at least ten times as large.
  obtain ⟨k, hk⟩ := Nat.exists_eq_add_one_of_ne_zero (mt List.length_eq_zero_iff.1 ho)
  have hpow : 10 * z.date.year.natAbs ≤ 10 ^ (k + 1) * z.date.year.natAbs :=
    Nat.mul_le_mul_right _ (Nat.le_self_pow (Nat.succ_ne_zero k) 10)
  rw [hk]
  omega

end Field

end DateTemplate
