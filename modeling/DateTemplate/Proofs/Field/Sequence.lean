import DateTemplate.Proofs.Field.Read

/-!
# Reading back a sequence of items

A reader goes through the items of a text one by one. It is in step if each item is read from its own
text, apart from blanks, which may be passed over early.

* `Bytes.UpToBlanks`: what is left to a reader that is in step.
* `Item.NoOverrun`: whether no item of a sequence takes anything of the text behind its own.
* `Item.read?_render`: one item. Without an overrun the reader stays in step, and only then
  (`Item.overrun_eq_nil_of_read?`).
* `Item.readSequence?_render`: all items. Without overruns a reader finds what the fields tell and is
  in step at the end.
-/

namespace DateTemplate

open Bytes

/-- Whether `bs` is what is left of the text to a reader that has come to `rest`, and may have passed
over the blanks there. -/
def Bytes.UpToBlanks (rest bs : List UInt8) : Prop := bs = rest ∨ bs = skipBlanks rest

theorem Bytes.UpToBlanks.refl (bs : List UInt8) : UpToBlanks bs bs := .inl rfl

theorem Bytes.UpToBlanks.eq_nil {bs : List UInt8} (h : UpToBlanks [] bs) : bs = [] := by
  rcases h with rfl | rfl <;> rfl

/-! ## One item -/

theorem skipBlanks_utf8_cons {c : Char} (h : ¬ Item.isBlank c) (cs : List Char) (rest : List UInt8) :
    skipBlanks (utf8 (c :: cs) ++ rest) = utf8 (c :: cs) ++ rest := by
  obtain ⟨b, bs, hc, -, hb⟩ := exists_utf8EncodeChar_eq_cons c
  rw [utf8_cons, hc]
  exact skipBlanks_eq_self (hb.trans (by simpa [Item.isBlank] using h)) _

/-- The text of a field that is no number begins with a letter or a sign. -/
theorem Field.exists_render_eq_cons {z : Instant} {f : Field} (hr : f.Readable z) (h : ¬ f.isNumber) :
    ∃ c cs, f.render z = c :: cs ∧ ¬ c.isDigit ∧ ¬ Item.isBlank c := by
  cases f with
  | number q p => exact absurd rfl h
  | fraction p => exact absurd rfl h
  | weekday s =>
    rw [render]
    cases z.date.weekday <;> cases s <;> exact ⟨_, _, rfl, by decide, by decide⟩
  | month s =>
    rw [render]
    cases z.date.month <;> cases s <;> exact ⟨_, _, rfl, by decide, by decide⟩
  | meridiem l =>
    rw [render]
    cases z.time.meridiem <;> cases l <;> exact ⟨_, _, rfl, by decide, by decide⟩
  | offset =>
    rw [render, Offset.render, Offset.signedHours]
    cases z.offset.isWest <;> exact ⟨_, _, rfl, by decide, by decide⟩
  | zoneName => exact hr.elim

/-- Blanks before a field do not matter. -/
theorem Field.read?_skipBlanks {z : Instant} {f : Field} (hr : f.Readable z) (rest : List UInt8) :
    f.read? (skipBlanks (utf8 (f.render z) ++ rest)) = f.read? (utf8 (f.render z) ++ rest) := by
  cases f with
  | number q p =>
    by_cases hq : q = .year
    · subst hq
      obtain ⟨lead, w, htext, -, hlead⟩ := Quantity.exists_render_eq hr
      rw [render, htext, utf8_append, List.append_assoc]
      rcases hlead with ⟨-, -, rfl⟩ | ⟨-, -, hnil⟩
      · rfl
      · obtain rfl := hnil rfl
        rw [utf8_nil, List.nil_append,
          skipBlanks_of_startsWithDigit (Decimal.startsWithDigit_padded w _ rest)]
    · simp only [Field.read?, Quantity.read?_of_ne_year hq, Quantity.readNumber?,
        skipBlanks_skipBlanks]
  | fraction p =>
    rw [render, Precision.render,
      skipBlanks_of_startsWithDigit (Decimal.startsWithDigit_padded p.digits _ rest)]
  | zoneName => exact hr.elim
  | _ =>
    obtain ⟨c, cs, hc, -, hb⟩ := exists_render_eq_cons hr (by simp [isNumber])
    rw [hc, skipBlanks_utf8_cons hb]

namespace Item

/-- Whether the text of the item tells what the item stands for. -/
def Readable (z : Instant) : Item → Prop
  | literal _ => True
  | field f => f.Readable z

/-- What a reader takes on top of the text of the item when `rest` comes behind it. -/
def overrun (z : Instant) (rest : List UInt8) : Item → List UInt8
  | literal _ => []
  | field f => f.overrun z rest

theorem read?_skipBlanks {z : Instant} {i : Item} (hr : i.Readable z) (rest : List UInt8) :
    i.read? (skipBlanks (utf8 (i.render z) ++ rest)) = i.read? (utf8 (i.render z) ++ rest) := by
  cases i with
  | literal c =>
    by_cases hblank : isBlank c
    · simp [read?, hblank]
    · rw [render, skipBlanks_utf8_cons hblank]
  | field f => simp only [read?, render, Field.read?_skipBlanks hr]

theorem read?_of_upToBlanks {z : Instant} {i : Item} (hr : i.Readable z) {rest bs : List UInt8}
    (hb : UpToBlanks (utf8 (i.render z) ++ rest) bs) :
    i.read? bs = i.read? (utf8 (i.render z) ++ rest) := by
  rcases hb with rfl | rfl
  · rfl
  · exact read?_skipBlanks hr rest

/-- **One item.** Without an overrun a reader finds what the item tells and stays in step. -/
theorem read?_render {z : Instant} {i : Item} (hr : i.Readable z) {rest bs : List UInt8}
    (ho : i.overrun z rest = []) (hb : UpToBlanks (utf8 (i.render z) ++ rest) bs) :
    ∃ bs', i.read? bs = some (i.field?.bind (Field.entry? z), bs') ∧ UpToBlanks rest bs' := by
  rw [read?_of_upToBlanks hr hb]
  cases i with
  | literal c =>
    by_cases hblank : isBlank c
    · have hc : ∀ b ∈ String.utf8EncodeChar c, Bytes.isBlank b := by simpa [isBlank] using hblank
      refine ⟨skipBlanks rest, ?_, .inr rfl⟩
      simp [read?, render, field?, hblank, skipBlanks_append hc]
    · refine ⟨rest, ?_, .inl rfl⟩
      simp [read?, render, field?, hblank, drop?_append]
  | field f =>
    obtain ⟨e, he, hread⟩ := Field.read?_render hr ho
    refine ⟨rest, ?_, .inl rfl⟩
    simp [read?, render, field?, hread, he]

/-- A reader that is still in step behind an item has had no overrun. -/
theorem overrun_eq_nil_of_read? {z : Instant} {i : Item} (hr : i.Readable z)
    {rest bs bs' : List UInt8} (hb : UpToBlanks (utf8 (i.render z) ++ rest) bs) {e : Option Entry}
    (h : i.read? bs = some (e, bs')) (hb' : UpToBlanks rest bs') : i.overrun z rest = [] := by
  rw [read?_of_upToBlanks hr hb] at h
  cases i with
  | literal c => rfl
  | field f =>
    rw [read?, Option.map_eq_some_iff] at h
    obtain ⟨⟨e', bs''⟩, h, heq⟩ := h
    cases heq
    refine Decidable.byContradiction fun ho => ?_
    have hdigit := Field.startsWithDigit_of_overrun_ne_nil ho
    have hdrop := Field.eq_drop_of_read?_render hr h
    have hrest : bs' = rest := by
      rcases hb' with rfl | rfl
      · rfl
      · exact skipBlanks_of_startsWithDigit hdigit
    have hlen := congrArg List.length hdrop
    have hpos := List.length_pos_iff.2 ho
    cases rest with
    | nil => simp [startsWithDigit] at hdigit
    | cons b rest =>
      rw [hrest, List.length_drop, List.length_cons] at hlen
      simp only [overrun] at hpos
      omega

/-! ## All items -/

/-- Whether no item takes anything of the text behind its own, where `rest` comes behind all of
them. -/
def NoOverrun (z : Instant) (rest : List UInt8) : List Item → Prop
  | [] => True
  | i :: is => i.overrun z (utf8 (is.flatMap (render z)) ++ rest) = [] ∧ NoOverrun z rest is

theorem noOverrun_append {z : Instant} {rest : List UInt8} (is js : List Item) :
    NoOverrun z rest (is ++ js) ↔
      NoOverrun z (utf8 (js.flatMap (render z)) ++ rest) is ∧ NoOverrun z rest js := by
  induction is with
  | nil => simp [NoOverrun]
  | cons i is ih => simp [NoOverrun, ih, and_assoc]

theorem entries_cons (z : Instant) (i : Item) (is : List Item) :
    entries z (i :: is) = (i.field?.bind (Field.entry? z)).toList ++ entries z is := by
  rw [entries, List.filterMap_cons]
  cases i.field?.bind (Field.entry? z) <;> rfl

/-- **All items.** Without overruns a reader finds what the fields tell and stays in step. -/
theorem readSequence?_render {z : Instant} {is : List Item} (hr : ∀ i ∈ is, i.Readable z)
    {rest bs : List UInt8} (ho : NoOverrun z rest is)
    (hb : UpToBlanks (utf8 (is.flatMap (render z)) ++ rest) bs) :
    ∃ bs', readSequence? is bs = some (entries z is, bs') ∧ UpToBlanks rest bs' := by
  induction is generalizing bs with
  | nil => exact ⟨bs, rfl, hb⟩
  | cons i is ih =>
    have hi := hr i List.mem_cons_self
    rw [List.flatMap_cons, utf8_append, List.append_assoc] at hb
    obtain ⟨bs₁, hread, hb₁⟩ := read?_render hi ho.1 hb
    obtain ⟨bs₂, hreads, hb₂⟩ := ih (fun j hj => hr j (List.mem_cons_of_mem i hj)) ho.2 hb₁
    refine ⟨bs₂, ?_, hb₂⟩
    simp [readSequence?, hread, hreads, entries_cons]

/-- A reader of a whole text without overruns finds what the fields tell. -/
theorem readAll?_render {z : Instant} {is : List Item} (hr : ∀ i ∈ is, i.Readable z)
    (ho : NoOverrun z [] is) :
    readSequence? is (utf8 (is.flatMap (render z))) = some (entries z is, []) := by
  obtain ⟨bs, hread, hb⟩ := @readSequence?_render z is hr [] _ ho (.refl _)
  rw [hb.eq_nil, List.append_nil] at hread
  exact hread

end Item

end DateTemplate
