import DateTemplate.Proofs.Field.Sequence
import DateTemplate.Proofs.Field.Table

/-!
# Which specifiers take more than their own text

Readers take as many digits as they can. Only for few specifiers is there room for more than those
that were written: the seconds of an offset, the rest of a fraction of a second, and the fourth digit
of a negative year.

* `Specifier.Overruns`: whether a reader takes digits of the text that follows a specifier.
* `Field.overrun_year_eq_nil_iff`, `Field.overrun_fraction_eq_nil_iff`, `Field.overrun_offset_eq_nil_iff`,
  `Field.overrun_eq_nil_of_isFixed`: the same for fields.
* `Specifier.noOverrun_iff`: what a specifier stands for has an overrun exactly if the specifier
  overruns. Inside of it a literal character comes behind each field.
-/

namespace DateTemplate

open Bytes

/-- How many digits a text begins with. -/
def digitsAtStart (cs : List Char) : Nat := (cs.takeWhile Char.isDigit).length

/-- Whether a reader takes digits for the specifier that stand behind its text. -/
def Specifier.Overruns (z : Instant) (following : List Char) (s : Specifier) : Prop :=
  match s.directive with
  | 'z' => 2 ≤ digitsAtStart following
  | 'L' | 'f' => 1 ≤ digitsAtStart following
  | 'Y' | 'c' | 'v' => -1000 < z.date.year ∧ z.date.year < 0 ∧ 1 ≤ digitsAtStart following
  | _ => False

/-- Only three kinds of specifiers overrun, and only where a digit follows. -/
theorem Specifier.Overruns.directive_mem {z : Instant} {cs : List Char} {s : Specifier}
    (h : s.Overruns z cs) : 1 ≤ digitsAtStart cs ∧
      (s.directive ∈ ['z', 'L', 'f'] ∨ s.directive ∈ ['Y', 'c', 'v'] ∧ z.date.year < 0) := by
  unfold Overruns at h
  split at h <;> simp_all
  omega

theorem Specifier.overruns_iff_of_year {z : Instant} {cs : List Char} {s : Specifier}
    (hd : s.directive ∈ ['Y', 'c', 'v']) : s.Overruns z cs ↔
      -1000 < z.date.year ∧ z.date.year < 0 ∧ 1 ≤ digitsAtStart cs := by
  simp only [List.mem_cons, List.not_mem_nil, or_false] at hd
  rcases hd with hd | hd | hd <;> simp [Overruns, hd]

/-- In years without a sign only offsets and fractions overrun. -/
theorem Specifier.overruns_iff_of_nonneg {z : Instant} (hy : 0 ≤ z.date.year) (cs : List Char)
    (s : Specifier) : s.Overruns z cs ↔ s.directive = 'z' ∧ 2 ≤ digitsAtStart cs ∨
      s.directive ∈ ['L', 'f'] ∧ 1 ≤ digitsAtStart cs := by
  unfold Overruns
  split
  next hd => simp [hd]
  next hd => simp [hd]
  next hd => simp [hd]
  next hd => simpa [hd] using fun _ h => absurd h (by omega)
  next hd => simpa [hd] using fun _ h => absurd h (by omega)
  next hd => simpa [hd] using fun _ h => absurd h (by omega)
  next => simp_all

/-! ## Digits at the start -/

theorem startsWithDigit_utf8_iff (cs : List Char) :
    startsWithDigit (utf8 cs) ↔ 1 ≤ digitsAtStart cs := by
  cases cs with
  | nil => simp [startsWithDigit, digitsAtStart]
  | cons c cs =>
    have hc := startsWithDigit_utf8_cons c cs []
    rw [List.append_nil] at hc
    rw [hc, digitsAtStart, List.takeWhile_cons]
    cases c.isDigit <;> simp

theorem readTwoDigits_utf8_iff (cs : List Char) :
    (readTwoDigits (utf8 cs)).isSome ↔ 2 ≤ digitsAtStart cs := by
  have hfirst := startsWithDigit_utf8_iff cs
  cases cs with
  | nil => simp [readTwoDigits, digitsAtStart]
  | cons c cs =>
    by_cases hc : c.isDigit
    · obtain ⟨b, hb, hd, -⟩ := utf8EncodeChar_of_isDigit hc
      have hrest : (readTwoDigits (b :: utf8 cs)).isSome ↔ startsWithDigit (utf8 cs) := by
        cases utf8 cs with
        | nil => simp [readTwoDigits, startsWithDigit]
        | cons b' bs => by_cases hb' : isDigit b' <;> simp [readTwoDigits, startsWithDigit, hd, hb']
      have hcount : digitsAtStart (c :: cs) = digitsAtStart cs + 1 := by simp [digitsAtStart, hc]
      rw [utf8_cons, hb, List.singleton_append, hrest, startsWithDigit_utf8_iff, hcount]
      omega
    · have hcount : digitsAtStart (c :: cs) = 0 := by simp [digitsAtStart, hc]
      rw [hcount] at hfirst ⊢
      constructor
      · intro h
        exact absurd (hfirst.1 (startsWithDigit_of_readTwoDigits h)) (by decide)
      · intro h
        exact absurd h (by decide)

namespace Item

/-- Whether the text of the item may begin with a digit. -/
def mayBeginWithDigit : Item → Bool
  | literal c => c.isDigit
  | field f => f.isNumber

theorem exists_render_eq_cons {z : Instant} {i : Item} (hr : i.Readable z)
    (h : ¬ i.mayBeginWithDigit) : ∃ c cs, i.render z = c :: cs ∧ ¬ c.isDigit := by
  cases i with
  | literal c => exact ⟨c, [], rfl, h⟩
  | field f =>
    obtain ⟨c, cs, hc, hd, -⟩ := Field.exists_render_eq_cons hr h
    exact ⟨c, cs, hc, hd⟩

end Item

/-! ## Fields -/

namespace Field

/-- Whether the text of the field leaves no room for more digits. -/
def isFixed : Field → Bool
  | number .year _ => false
  | number _ .zeros | fraction .nanoseconds | weekday _ | month _ | meridiem _ => true
  | _ => false

theorem overrun_eq_nil_of_isFixed {z : Instant} {f : Field} (hr : f.Readable z) (h : f.isFixed)
    (rest : List UInt8) : f.overrun z rest = [] := by
  cases f with
  | number q p =>
    have hq : q ≠ .year := by
      rintro rfl
      exact absurd h (by simp [isFixed])
    obtain rfl : p = .zeros := by cases q <;> cases p <;> simp_all [isFixed]
    have habs : q.value z = (q.value z).natAbs := by
      have := Quantity.value_nonneg hr hq
      omega
    have hspare : spareDigits z (number q .zeros) = 0 := by
      rw [spareDigits, digitLimit, render, Padding.render, habs, Decimal.countP_isDigit_padded]
      omega
    simp [overrun, hspare, leadingDigits]
  | fraction p =>
    cases p with
    | nanoseconds => simp [overrun_fraction, Precision.digits, leadingDigits]
    | _ => simp [isFixed] at h
  | weekday s => simp [overrun, spareDigits, digitLimit, leadingDigits]
  | month s => simp [overrun, spareDigits, digitLimit, leadingDigits]
  | meridiem l => simp [overrun, spareDigits, digitLimit, leadingDigits]
  | offset => simp [isFixed] at h
  | zoneName => simp [isFixed] at h

theorem overrun_fraction_eq_nil_iff (z : Instant) {p : Precision} (hp : p ≠ .nanoseconds)
    (rest : List UInt8) : (fraction p).overrun z rest = [] ↔ ¬ startsWithDigit rest := by
  have hpos : 0 < 9 - p.digits := by
    cases p with
    | nanoseconds => exact absurd rfl hp
    | _ => decide
  rw [overrun_fraction, leadingDigits_eq_nil_iff, and_iff_right hpos]

theorem overrun_offset_eq_nil_iff (z : Instant) (rest : List UInt8) :
    offset.overrun z rest = [] ↔ ¬ (readTwoDigits rest).isSome := by
  constructor
  · intro h
    simp [readTwoDigits_eq_none_of_overrun h]
  · intro h
    simp [overrun, h]

/-- The sign of a negative year takes the place of a digit. From year -1000 on back there are four
digits nevertheless. -/
theorem overrun_year_eq_nil_iff (z : Instant) (rest : List UInt8) :
    (number .year .zeros).overrun z rest = [] ↔
      ¬ (-1000 < z.date.year ∧ z.date.year < 0 ∧ startsWithDigit rest) := by
  change leadingDigits (spareDigits z (number .year .zeros)) rest = [] ↔ _
  rw [leadingDigits_eq_nil_iff]
  rcases Int.lt_or_le z.date.year 0 with hneg | hpos
  · have hvalue : Quantity.year.value z < 0 := hneg
    have hcount : ((number .year .zeros).render z).countP Char.isDigit =
        max 3 (Decimal.digitCount z.date.year.natAbs) := by
      rw [render, Padding.render, Decimal.padded_of_neg _ hvalue,
        List.countP_cons_of_neg (by decide), Decimal.countP_isDigit_padded]
      rfl
    have hspare : 0 < spareDigits z (number .year .zeros) ↔ -1000 < z.date.year := by
      have hlt := Decimal.digitCount_le_iff (n := z.date.year.natAbs) (k := 3) (by decide)
      rw [spareDigits, hcount, digitLimit, Quantity.width]
      omega
    simp [hspare, hneg]
  · have hspare : spareDigits z (number .year .zeros) = 0 := by
      have habs : Quantity.year.value z = z.date.year.natAbs := (Int.natAbs_of_nonneg hpos).symm
      rw [spareDigits, digitLimit, render, Padding.render, habs, Decimal.countP_isDigit_padded]
      omega
    simp [hspare, Int.not_lt.2 hpos]

end Field

/-! ## Specifiers -/

namespace Item

/-- Whether `j` keeps digits away from the text of `i` when it comes right behind. -/
def parted : Item → Item → Bool
  | literal _, _ => true
  | field _, literal c => !c.isDigit
  | field _, field _ => false

theorem overrun_eq_nil_of_parted {i j : Item} (h : parted i j) (z : Instant) (is : List Item)
    (rest : List UInt8) : i.overrun z (utf8 ((j :: is).flatMap (render z)) ++ rest) = [] := by
  cases i with
  | literal c => rfl
  | field f =>
    cases j with
    | field g => simp [parted] at h
    | literal c =>
      refine Field.overrun_eq_nil ?_ f
      rw [List.flatMap_cons, render, List.singleton_append, startsWithDigit_utf8_cons]
      simpa [parted] using h

/-- Where no field has digits right behind it, only the last item can have an overrun. -/
theorem noOverrun_iff_of_isChain (z : Instant) (rest : List UInt8) {is : List Item}
    (h : is.IsChain fun i j => parted i j) :
    NoOverrun z rest is ↔ ∀ i ∈ is.getLast?, i.overrun z rest = [] := by
  induction is with
  | nil => simp [NoOverrun]
  | cons i is ih =>
    cases is with
    | nil => simp [NoOverrun]
    | cons j is =>
      obtain ⟨hij, hjs⟩ := List.isChain_cons_cons.1 h
      rw [NoOverrun, ih hjs, List.getLast?_cons_cons]
      exact and_iff_right (overrun_eq_nil_of_parted hij z is rest)

/-- A reader that is in step before and behind such items has had no overrun. -/
theorem noOverrun_of_readSequence? {z : Instant} {is : List Item}
    (hc : is.IsChain fun i j => parted i j) (hr : ∀ i ∈ is, i.Readable z) {rest bs bs' : List UInt8}
    (hb : UpToBlanks (utf8 (is.flatMap (render z)) ++ rest) bs) {es : List Entry}
    (h : readSequence? is bs = some (es, bs')) (hb' : UpToBlanks rest bs') : NoOverrun z rest is := by
  induction is generalizing bs es with
  | nil => trivial
  | cons i is ih =>
    have hi := hr i List.mem_cons_self
    rw [List.flatMap_cons, utf8_append, List.append_assoc] at hb
    simp only [readSequence?, Option.bind_eq_bind, Option.bind_eq_some_iff] at h
    obtain ⟨⟨e, bs₁⟩, hread, ⟨fs, bs₂⟩, hreads, heq⟩ := h
    cases heq
    cases is with
    | nil =>
      cases hreads
      exact ⟨overrun_eq_nil_of_read? hi hb hread hb', trivial⟩
    | cons j is =>
      obtain ⟨hij, hjs⟩ := List.isChain_cons_cons.1 hc
      have ho := overrun_eq_nil_of_parted hij z is rest
      obtain ⟨bs₁', hread', hb₁⟩ := read?_render hi ho hb
      rw [hread] at hread'
      cases hread'
      exact ⟨ho, ih hjs (fun k hk => hr k (List.mem_cons_of_mem i hk)) hb₁ hreads⟩

end Item

namespace Specifier

/-- Inside of what a specifier stands for no field has digits right behind it. -/
theorem isChain_parted {s : Specifier} {items : List Item} (h : s.items? = some items) :
    items.IsChain fun i j => Item.parted i j :=
  forall_of_layoutSpecifiers (P := fun _ items => items.IsChain fun i j => Item.parted i j)
    (by decide) h

/-- The first item of a specifier may begin with a digit only if it is a number. -/
theorem exists_items_eq_cons {s : Specifier} {items : List Item} (h : s.items? = some items) :
    ∃ i is, items = i :: is ∧ (¬ Item.startsWithNumber items → ¬ i.mayBeginWithDigit) := by
  have htable := forall_of_layoutSpecifiers (P := fun _ items => items ≠ [] ∧
    (¬ Item.startsWithNumber items → ∀ i ∈ items.head?, ¬ i.mayBeginWithDigit)) (by decide) h
  cases items with
  | nil => exact absurd rfl htable.1
  | cons i is => exact ⟨i, is, rfl, fun hn => htable.2 hn i rfl⟩

/-- The last item of each specifier. -/
theorem getLast?_items {s : Specifier} {items : List Item} (h : s.items? = some items) :
    s.directive = 'z' ∧ items.getLast? = some (.field .offset) ∨
      s.directive = 'L' ∧ items.getLast? = some (.field (.fraction .milliseconds)) ∨
      s.directive = 'f' ∧ items.getLast? = some (.field (.fraction .microseconds)) ∨
      s.directive ∈ ['Y', 'c', 'v'] ∧ items.getLast? = some (.field (.number .year .zeros)) ∨
      s.directive ∉ ['z', 'L', 'f', 'Y', 'c', 'v'] ∧
        (.field .zoneName ∈ items ∨ ∀ i ∈ items.getLast?,
          i.field?.all fun f => f.isOpenNumber || f.isFixed) :=
  forall_of_layoutSpecifiers
    (P := fun s items => s.directive = 'z' ∧ items.getLast? = some (.field .offset) ∨
      s.directive = 'L' ∧ items.getLast? = some (.field (.fraction .milliseconds)) ∨
      s.directive = 'f' ∧ items.getLast? = some (.field (.fraction .microseconds)) ∨
      s.directive ∈ ['Y', 'c', 'v'] ∧ items.getLast? = some (.field (.number .year .zeros)) ∨
      s.directive ∉ ['z', 'L', 'f', 'Y', 'c', 'v'] ∧
        (.field .zoneName ∈ items ∨ ∀ i ∈ items.getLast?,
          i.field?.all fun f => f.isOpenNumber || f.isFixed)) (by decide) h

/-- **Overruns.** If no digit follows a number whose width is open, what a specifier stands for has an
overrun exactly if the specifier overruns. -/
theorem noOverrun_iff {z : Instant} {s : Specifier} {items : List Item} (hs : s.items? = some items)
    (hr : ∀ i ∈ items, i.Readable z) (cs : List Char)
    (hopen : Item.endsWithOpenNumber items → digitsAtStart cs = 0) :
    Item.NoOverrun z (utf8 cs) items ↔ ¬ s.Overruns z cs := by
  rw [Item.noOverrun_iff_of_isChain z _ (isChain_parted hs)]
  rcases getLast?_items hs with ⟨hd, hl⟩ | ⟨hd, hl⟩ | ⟨hd, hl⟩ | ⟨hd, hl⟩ | ⟨hd, hl⟩
  · simp [hl, Overruns, hd, Item.overrun, Field.overrun_offset_eq_nil_iff, readTwoDigits_utf8_iff]
  · simp [hl, Overruns, hd, Item.overrun, Field.overrun_fraction_eq_nil_iff, startsWithDigit_utf8_iff]
  · simp [hl, Overruns, hd, Item.overrun, Field.overrun_fraction_eq_nil_iff, startsWithDigit_utf8_iff]
  · simp [hl, overruns_iff_of_year hd, Item.overrun, Field.overrun_year_eq_nil_iff,
      startsWithDigit_utf8_iff]
  · have hover : ¬ s.Overruns z cs := by
      simp only [List.mem_cons, List.not_mem_nil, or_false, not_or] at hd
      simp [Overruns, hd]
    refine iff_of_true (fun i hi => ?_) hover
    have hmem := List.mem_of_getLast? hi
    cases i with
    | literal c => rfl
    | field f =>
      have hz : .field .zoneName ∉ items := fun h => hr _ h
      have hf := hl.resolve_left hz _ hi
      simp only [Item.field?, Option.all_some, Bool.or_eq_true] at hf
      rcases hf with hf | hf
      · have hend : Item.endsWithOpenNumber items := by
          rw [Item.endsWithOpenNumber, Option.mem_def.1 hi]
          simpa [Item.field?] using hf
        refine Field.overrun_eq_nil ?_ f
        rw [startsWithDigit_utf8_iff, hopen hend]
        decide
      · exact Field.overrun_eq_nil_of_isFixed (hr _ hmem) hf _

end Specifier

end DateTemplate
