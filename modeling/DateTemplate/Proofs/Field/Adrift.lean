import DateTemplate.Proofs.Field.Sequence

/-!
# How far a reader falls out of step

A reader that has taken digits of the text behind an item can only be ahead by blanks and digits. It is
in step again where something else comes, at the latest at the sign of a negative year.

* `Bytes.Adrift`: what is left to a reader that is ahead by blanks and digits.
* `Item.adrift_of_read?`, `Item.adrift_of_readSequence?`: a reader that goes on is ahead by blanks and
  digits again.
* `Item.exists_year_of_readSequence?`: a negative year with an overrun is read as another year, whatever
  comes before it.
-/

namespace DateTemplate

open Bytes

namespace Bytes

/-- Whether `bs` is what is left of the text to a reader that should have come to `rest`, and may be
ahead by blanks and digits. -/
def Adrift (rest bs : List UInt8) : Prop :=
  ∃ lost, rest = lost ++ bs ∧ ∀ b ∈ lost, isBlank b ∨ isDigit b

theorem Adrift.refl (bs : List UInt8) : Adrift bs bs := ⟨[], rfl, by simp⟩

theorem Adrift.trans {as bs cs : List UInt8} (h : Adrift as bs) (h' : Adrift bs cs) :
    Adrift as cs := by
  obtain ⟨lost, rfl, hlost⟩ := h
  obtain ⟨lost', rfl, hlost'⟩ := h'
  refine ⟨lost ++ lost', by simp, fun b hb => ?_⟩
  exact (List.mem_append.1 hb).elim (hlost b) (hlost' b)

/-- A reader that has come to a text is behind it already, or has an end of it before it. -/
theorem Adrift.append_cases {text rest bs : List UInt8} (h : Adrift (text ++ rest) bs) :
    Adrift rest bs ∨ ∃ before left, text = before ++ left ∧ bs = left ++ rest := by
  obtain ⟨lost, heq, hlost⟩ := h
  rcases List.append_eq_append_iff.1 heq with ⟨more, rfl, rfl⟩ | ⟨left, rfl, rfl⟩
  · exact .inl ⟨more, rfl, fun b hb => hlost b (List.mem_append_right _ hb)⟩
  · exact .inr ⟨lost, left, rfl, rfl⟩

/-- Where something else than a blank or a digit comes, a reader is in step. -/
theorem Adrift.eq_of_utf8_cons {c : Char} (hd : ¬ c.isDigit) (hb : ¬ Item.isBlank c) {cs : List Char}
    {rest bs : List UInt8} (h : Adrift (utf8 (c :: cs) ++ rest) bs) : bs = utf8 (c :: cs) ++ rest := by
  obtain ⟨b, bs', hc, hdigit, hblank⟩ := exists_utf8EncodeChar_eq_cons c
  obtain ⟨lost, heq, hlost⟩ := h
  cases lost with
  | nil => exact heq.symm
  | cons b' lost =>
    have hfirst := hlost b' List.mem_cons_self
    rw [utf8_cons, hc, List.cons_append, List.cons_append, List.cons_append] at heq
    obtain ⟨rfl, -⟩ := List.cons_eq_cons.1 heq
    rw [hdigit, hblank] at hfirst
    exact absurd hfirst (not_or.2 ⟨hb, hd⟩)

theorem adrift_skipBlanks (bs : List UInt8) : Adrift bs (skipBlanks bs) := by
  refine ⟨bs.takeWhile isBlank, List.takeWhile_append_dropWhile.symm, fun b hb => .inl ?_⟩
  exact List.mem_takeWhile_imp hb

theorem adrift_drop_leadingDigits (limit : Nat) (bs : List UInt8) :
    Adrift bs (bs.drop (leadingDigits limit bs).length) := by
  have hprefix : leadingDigits limit bs <+: bs :=
    (List.takeWhile_prefix isDigit).trans (List.take_prefix limit bs)
  refine ⟨leadingDigits limit bs, (List.prefix_iff_eq_append.1 hprefix).symm, fun b hb => .inr ?_⟩
  exact List.mem_takeWhile_imp hb

theorem adrift_of_readDigits {limit : Nat} {bs ds rest : List UInt8}
    (h : readDigits limit bs = some (ds, rest)) : Adrift bs rest := by
  unfold readDigits at h
  split at h
  · cases h
  · cases h
    exact adrift_drop_leadingDigits limit bs

/-- A reader inside of a text of blanks and digits comes to its end when it reads digits. -/
theorem Adrift.of_readDigits {limit : Nat} {blanks digits rest bs bs' ds : List UInt8}
    (hblank : ∀ b ∈ blanks, isBlank b) (hdigit : ∀ b ∈ digits, isDigit b)
    (hl : digits.length ≤ limit) (h : Adrift (blanks ++ digits ++ rest) bs)
    (hread : readDigits limit (skipBlanks bs) = some (ds, bs')) : Adrift rest bs' := by
  rcases h.append_cases with hrest | ⟨before, left, hleft, rfl⟩
  · exact (hrest.trans (adrift_skipBlanks bs)).trans (adrift_of_readDigits hread)
  · -- The reader has some of the text's blanks and digits before it, and takes them all.
    obtain ⟨blanks', digits', rfl, hblank', hdigit', hl'⟩ : ∃ blanks' digits',
        left = blanks' ++ digits' ∧ (∀ b ∈ blanks', isBlank b) ∧ (∀ b ∈ digits', isDigit b) ∧
          digits'.length ≤ limit := by
      rcases List.append_eq_append_iff.1 hleft with ⟨ds', rfl, rfl⟩ | ⟨bl', rfl, rfl⟩
      · refine ⟨[], left, rfl, by simp, fun b hb => hdigit b (List.mem_append_right _ hb), ?_⟩
        rw [List.length_append] at hl
        omega
      · exact ⟨bl', digits, rfl, fun b hb => hblank b (List.mem_append_right _ hb), hdigit, hl⟩
    rw [List.append_assoc, skipBlanks_append hblank'] at hread
    by_cases hnil : digits' = []
    · subst hnil
      exact (adrift_skipBlanks rest).trans (adrift_of_readDigits hread)
    · have hstart : startsWithDigit (digits' ++ rest) := by
        cases digits' with
        | nil => exact absurd rfl hnil
        | cons b digits' => simp [startsWithDigit, hdigit' b List.mem_cons_self]
      rw [skipBlanks_of_startsWithDigit hstart, readDigits_append hnil hdigit' hl'] at hread
      cases hread
      exact adrift_drop_leadingDigits _ rest

end Bytes

/-! ## One field -/

namespace Field

theorem adrift_drop_overrun (z : Instant) (rest : List UInt8) (f : Field) :
    Adrift rest (rest.drop (f.overrun z rest).length) := by
  cases f with
  | offset =>
    by_cases h : (readTwoDigits rest).isSome
    · obtain ⟨a, b, bs, rfl, ha, hb⟩ := exists_of_readTwoDigits h
      refine ⟨[a, b], by simp [overrun, h], ?_⟩
      simp [ha, hb]
    · simpa [overrun, h] using Adrift.refl rest
  | _ => exact adrift_drop_leadingDigits _ rest

/-- Behind a number a reader is ahead by blanks and digits, if it was so before. -/
theorem adrift_of_isNumber {z : Instant} {f : Field} (hr : f.Readable z) (hn : f.isNumber)
    (hy : ∀ p, f ≠ number .year p) {rest bs bs' : List UInt8}
    (ha : Adrift (utf8 (f.render z) ++ rest) bs) {e : Entry} (h : f.read? bs = some (e, bs')) :
    Adrift rest bs' := by
  cases f with
  | number q p =>
    have hq : q ≠ .year := fun hq => hy p (by rw [hq])
    obtain ⟨lead, w, htext, hw, hlead⟩ := Quantity.exists_render_eq hr
    have hspace : ∀ c ∈ lead, c = ' ' := by
      rcases hlead with ⟨-, hyear, -⟩ | ⟨-, hspace, -⟩
      · exact absurd hyear hq
      · exact hspace
    have hlen : (utf8 (Decimal.padded .zero w (q.value z).natAbs)).length ≤ q.width := by
      rw [Decimal.length_utf8_padded]
      exact Nat.max_le.2 ⟨hw, Decimal.digitCount_le q.width_pos (q.natAbs_value_lt z)⟩
    rw [render, htext, utf8_append] at ha
    simp only [Field.read?, Quantity.read?_of_ne_year hq, Quantity.readNumber?, Option.bind_eq_bind,
      Option.bind_eq_some_iff, Option.map_eq_some_iff] at h
    obtain ⟨⟨n, bs₁⟩, ⟨⟨ds, bs₂⟩, hread, heq⟩, e', -, heq'⟩ := h
    cases heq
    cases heq'
    exact ha.of_readDigits (isBlank_of_mem_utf8 hspace)
      (utf8_of_isDigit (Decimal.forall_isDigit_padded w _)).1 hlen hread
  | fraction p =>
    have hdigits := (utf8_of_isDigit (Decimal.forall_isDigit_padded p.digits
      (z.time.nanosecond / p.unit))).1
    have hlen : (utf8 (p.render z.time.nanosecond)).length ≤ 9 := by
      rw [Precision.render, Decimal.length_utf8_padded,
        Precision.length_digits_render z.time.nanosecond_lt]
      cases p <;> decide
    simp only [Field.read?, Precision.read?, Option.bind_eq_bind, Option.bind_eq_some_iff] at h
    obtain ⟨⟨ds, bs₁⟩, hread, heq⟩ := h
    cases heq
    rw [← skipBlanks_of_startsWithDigit (startsWithDigit_of_readDigits hread)] at hread
    rw [render, ← List.nil_append (utf8 _)] at ha
    exact ha.of_readDigits (by simp) hdigits hlen hread
  | _ => exact absurd hn (by simp [isNumber])

theorem exists_render_year_eq_cons {z : Instant} {p : Padding} (hr : (number .year p).Readable z)
    (hneg : z.date.year < 0) : ∃ cs, (number .year p).render z = '-' :: cs := by
  obtain ⟨lead, w, htext, -, hlead⟩ := Quantity.exists_render_eq hr
  have hvalue : ¬ 0 ≤ Quantity.year.value z := Int.not_le.2 hneg
  obtain ⟨-, -, rfl⟩ := hlead.resolve_right fun h => hvalue h.1
  exact ⟨_, htext⟩

/-- **One field.** Behind a field a reader is ahead by blanks and digits, if it was so before and a year
begins with a sign. -/
theorem adrift_of_read? {z : Instant} {f : Field} (hr : f.Readable z) (hneg : z.date.year < 0)
    {rest bs bs' : List UInt8} (ha : Adrift (utf8 (f.render z) ++ rest) bs) {e : Entry}
    (h : f.read? bs = some (e, bs')) : Adrift rest bs' := by
  by_cases hn : f.isNumber ∧ ∀ p, f ≠ number .year p
  · exact adrift_of_isNumber hr hn.1 hn.2 ha h
  · -- The text begins with a letter or a sign, so the reader is in step there.
    obtain ⟨c, cs, hc, hd, hb⟩ : ∃ c cs, f.render z = c :: cs ∧ ¬ c.isDigit ∧ ¬ Item.isBlank c := by
      by_cases hnum : f.isNumber
      · obtain ⟨p, hp⟩ := not_forall.1 fun hy => hn ⟨hnum, hy⟩
        obtain rfl := not_not.1 hp
        obtain ⟨cs, hc⟩ := exists_render_year_eq_cons hr hneg
        exact ⟨'-', cs, hc, by decide, by decide⟩
      · exact exists_render_eq_cons hr hnum
    rw [hc] at ha
    rw [ha.eq_of_utf8_cons hd hb, ← hc] at h
    rw [eq_drop_of_read?_render hr h]
    exact adrift_drop_overrun z rest f

end Field

/-! ## All items -/

namespace Item

theorem adrift_of_read? {z : Instant} {i : Item} (hr : i.Readable z) (hneg : z.date.year < 0)
    (hd : ∀ c, i = .literal c → ¬ c.isDigit) {rest bs bs' : List UInt8}
    (ha : Adrift (utf8 (i.render z) ++ rest) bs) {e : Option Entry}
    (h : i.read? bs = some (e, bs')) : Adrift rest bs' := by
  cases i with
  | literal c =>
    by_cases hb : isBlank c
    · simp only [read?, hb, if_true, Option.some.injEq, Prod.mk.injEq] at h
      obtain ⟨-, rfl⟩ := h
      have hblank : ∀ b ∈ utf8 [c], Bytes.isBlank b := by simpa [isBlank] using hb
      rcases ha.append_cases with hrest | ⟨before, left, hleft, rfl⟩
      · exact hrest.trans (adrift_skipBlanks bs)
      · rw [skipBlanks_append fun b hb => hblank b (hleft ▸ List.mem_append_right _ hb)]
        exact adrift_skipBlanks rest
    · rw [ha.eq_of_utf8_cons (hd c rfl) hb, utf8_cons, utf8_nil, List.append_nil] at h
      simp only [read?, hb, Bool.false_eq_true, if_false, drop?_append, Option.map_some,
        Option.some.injEq, Prod.mk.injEq] at h
      rw [← h.2]
      exact .refl rest
  | field f =>
    rw [read?, Option.map_eq_some_iff] at h
    obtain ⟨⟨e', bs''⟩, h, heq⟩ := h
    cases heq
    exact Field.adrift_of_read? hr hneg ha h

/-- **All items.** A reader that goes on is ahead by blanks and digits again. -/
theorem adrift_of_readSequence? {z : Instant} {is : List Item} (hr : ∀ i ∈ is, i.Readable z)
    (hneg : z.date.year < 0) (hd : ∀ c, .literal c ∈ is → ¬ c.isDigit) {rest bs bs' : List UInt8}
    (ha : Adrift (utf8 (is.flatMap (render z)) ++ rest) bs) {es : List Entry}
    (h : readSequence? is bs = some (es, bs')) : Adrift rest bs' := by
  induction is generalizing bs es with
  | nil =>
    cases h
    exact ha
  | cons i is ih =>
    simp only [readSequence?, Option.bind_eq_bind, Option.bind_eq_some_iff] at h
    obtain ⟨⟨e, bs₁⟩, hread, ⟨fs, bs₂⟩, hreads, heq⟩ := h
    cases heq
    rw [List.flatMap_cons, utf8_append, List.append_assoc] at ha
    have ha₁ := adrift_of_read? (hr i List.mem_cons_self) hneg (fun c hc => hd c (by simp [hc])) ha
      hread
    exact ih (fun j hj => hr j (List.mem_cons_of_mem i hj))
      (fun c hc => hd c (List.mem_cons_of_mem i hc)) ha₁ hreads

/-- A negative year with an overrun is read as another year, whatever comes before it. -/
theorem exists_year_of_readSequence? {z : Instant} {p : Padding} {us vs : List Item}
    (hr : ∀ i ∈ us ++ .field (.number .year p) :: vs, i.Readable z) (hneg : z.date.year < 0)
    (hd : ∀ c, .literal c ∈ us → ¬ c.isDigit) {rest bs bs' : List UInt8}
    (ho : (Field.number .year p).overrun z (utf8 (vs.flatMap (render z)) ++ rest) ≠ [])
    (ha : Adrift (utf8 ((us ++ .field (.number .year p) :: vs).flatMap (render z)) ++ rest) bs)
    {es : List Entry} (h : readSequence? (us ++ .field (.number .year p) :: vs) bs = some (es, bs')) :
    ∃ es₁ n bs₁ es₂, es = es₁ ++ .year n :: es₂ ∧ n ≠ z.date.year ∧
      readSequence? vs bs₁ = some (es₂, bs') := by
  have hyear : (Field.number .year p).Readable z := hr (.field (.number .year p)) (by simp)
  simp only [readSequence?_append, readSequence?, Option.bind_eq_bind, Option.bind_eq_some_iff] at h
  obtain ⟨⟨es₁, bs₁⟩, hreads, ⟨es₂, bs₂⟩, ⟨⟨e, bs₃⟩, hread, ⟨es₃, bs₄⟩, hreads', heq'⟩, heq⟩ := h
  cases heq'
  cases heq
  rw [List.flatMap_append, List.flatMap_cons, utf8_append, utf8_append, List.append_assoc,
    List.append_assoc] at ha
  have ha₁ := adrift_of_readSequence? (fun i hi => hr i (List.mem_append_left _ hi)) hneg hd ha hreads
  -- The sign of the year brings the reader back in step.
  obtain ⟨cs, hc⟩ := Field.exists_render_year_eq_cons hyear hneg
  rw [render, hc] at ha₁
  rw [ha₁.eq_of_utf8_cons (by decide) (by decide), ← hc, read?, Option.map_eq_some_iff] at hread
  obtain ⟨⟨e', bs₅⟩, hread, heq⟩ := hread
  cases heq
  obtain ⟨n, rfl, hn⟩ := Field.year_ne_of_read?_render hyear hneg ho hread
  exact ⟨es₁, n, _, es₃, rfl, hn, hreads'⟩

end Item

end DateTemplate
