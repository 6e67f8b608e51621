import DateTemplate.Proofs.Field.Entry
import DateTemplate.Proofs.Layout.InStep

/-!
# What is read back of a formatted text

* `Template.fields`: the fields of a template.
* `Template.NumberFollows`: whether a number directly follows one of some specifiers.
* `Template.not_overruns`: where no number follows an offset, a short fraction of a second or a
  negative year, no token overruns.
* `Template.read_format_tells`: then the text of an instant is read back, and what is read is what the
  last fields of the template tell of the instant.
-/

namespace DateTemplate

open Bytes

theorem pair_infix_iff {α : Type} {a b : α} {l : List α} :
    [a, b] <:+: l ↔ (a, b) ∈ l.zip l.tail := by
  induction l with
  | nil => simp
  | cons c l ih =>
    rw [List.infix_cons_iff, ih]
    cases l with
    | nil => simp [List.cons_prefix_cons]
    | cons d l => simp [List.cons_prefix_cons]

namespace Template

/-- The fields of the template in order. -/
def fields (t : Template) : List Field :=
  (t.tokens.flatMap Token.layoutItems).filterMap Item.field?

/-- Whether a specifier that begins with a number directly follows one with one of the directives. -/
def NumberFollows (t : Template) (directives : List Char) : Prop :=
  ∃ s s' : Specifier, [.specifier s, .specifier s'] <:+: t.tokens ∧ s.directive ∈ directives ∧
    Item.startsWithNumber (Token.specifier s').layoutItems

instance (t : Template) (directives : List Char) : Decidable (t.NumberFollows directives) :=
  decidable_of_iff (∃ p ∈ t.tokens.zip t.tokens.tail, ∃ s ∈ p.1.specifier?, ∃ s' ∈ p.2.specifier?,
    s.directive ∈ directives ∧ Item.startsWithNumber (Token.specifier s').layoutItems) (by
      constructor
      · rintro ⟨⟨u, u'⟩, hp, s, hs, s', hs', h⟩
        cases u <;> cases hs
        cases u' <;> cases hs'
        exact ⟨s, s', pair_infix_iff.2 hp, h⟩
      · rintro ⟨s, s', hin, h⟩
        exact ⟨_, pair_infix_iff.1 hin, s, rfl, s', rfl, h⟩)

variable {t : Template} {z : Instant} {l : Layout}

/-- A token that overruns has a number behind it. -/
theorem Overruns.numberFollows (hr : ∀ u ∈ t.tokens, u.Readable z) (h : t.Overruns z) :
    t.NumberFollows ['z', 'L', 'f'] ∨ z.date.year < 0 ∧ t.NumberFollows ['Y', 'c', 'v'] := by
  obtain ⟨us, u, vs, hts, ho⟩ := h
  cases u with
  | literal c => exact ho.elim
  | specifier s =>
    obtain ⟨hpos, hd⟩ := Specifier.Overruns.directive_mem ho
    obtain ⟨s', ws, rfl, hstart⟩ :=
      Token.exists_of_digitsAtStart_pos (fun v hv => hr v (by simp [hts, hv])) hpos
    have hin : [.specifier s, .specifier s'] <:+: t.tokens := ⟨us, ws, by simp [hts]⟩
    rcases hd with hd | ⟨hd, hneg⟩
    · exact .inl ⟨s, s', hin, hd, hstart⟩
    · exact .inr ⟨hneg, s, s', hin, hd, hstart⟩

/-- The entries of the template's layout are what the template's fields tell. -/
theorem entries_layout (hl : t.layout = .ok l) :
    Item.entries z l.items = t.fields.filterMap (Field.entry? z) := by
  rw [fields, ← items_of_layout hl, List.filterMap_filterMap]
  rfl

/-- **Round trip.** The text of an instant is read back to its end, and each part that is read is what
the last field for it tells of the instant. Nothing else is read. -/
theorem read_format_tells (hl : t.layout = .ok l)
    (hadj : ¬ t.NumberFollows ['z', 'L', 'f'])
    (hneg : 0 ≤ z.date.year ∨ ¬ t.NumberFollows ['Y', 'c', 'v'])
    (hc : (∃ s ∈ t.specifiers, s.directive ∈ ['y', 'D', 'x']) →
      1969 ≤ z.date.year ∧ z.date.year ≤ 2068)
    (ho : (∃ s ∈ t.specifiers, s.directive = 'z') → z.offset.restSeconds = 0) :
    ∃ es, Item.readSequence? l.items (utf8 (t.format z).toList) = some (es, []) ∧
      t.read (utf8 (t.format z).toList) = .ok (Reading.ofEntries es) ∧
      (Reading.ofEntries es).Tells z t.fields := by
  have hr := readable_tokens hl hc ho
  have hover : ¬ t.Overruns z := by
    intro h
    rcases h.numberFollows hr with hf | ⟨hy, hf⟩
    · exact hadj hf
    · rcases hneg with hpos | hn
      · omega
      · exact hn hf
  refine ⟨_, readSequence?_format hl hr hover, read_format_eq_ok hl hr hover, ?_⟩
  rw [entries_layout hl]
  exact Reading.tells_ofEntries z t.fields

/-- The half of the day makes 23 of the written hour 11. Behind the negative year comes a tab and no number. -/
theorem read_format_tells_of_negative_year :
    let t : Template := ⟨"%e%b %Y%t%-I:%M:%S.%L %p %z%"⟩
    let z : Instant := ⟨-62300000000123456789, ⟨-16200, by decide, by decide⟩, none, by decide,
      by decide⟩
    t.format z = "16Oct -005\t11:56:39.876 PM -0430%" ∧
      z.date.year = -5 ∧ ¬ t.NumberFollows ['z', 'L', 'f'] ∧ ¬ t.NumberFollows ['Y', 'c', 'v'] ∧
      ∃ l es, t.layout = .ok l ∧
        Item.readSequence? l.items (utf8 (t.format z).toList) = some (es, []) ∧
        t.read (utf8 (t.format z).toList) = .ok (Reading.ofEntries es) ∧
        (Reading.ofEntries es).Tells z t.fields ∧
        Reading.ofEntries es = {
          year := some (-5), month := some .october, day := some 16
          writtenHour := some 11, minute := some 56, second := some 39
          nanosecond := some 876000000, offset := Offset.ofSeconds? (-16200)
          meridiem := some .pm } ∧
        (Reading.ofEntries es).hour = some 23 := by
  intro t z
  obtain ⟨l, hl⟩ : ∃ l, Template.layout ⟨"%e%b %Y%t%-I:%M:%S.%L %p %z%"⟩ = .ok l := ⟨_, rfl⟩
  obtain ⟨es, hsequence, hread, htells⟩ :=
    read_format_tells (t := t) (z := z) hl (by decide) (.inr (by decide)) (by decide) (by decide)
  refine ⟨by decide +kernel, by decide, by decide, by decide, l, es, hl, hsequence, hread, htells,
    Except.ok.inj (hread.symm.trans ?_), ?_⟩
  · decide +kernel
  · exact htells.hour.trans (by decide)

end Template

end DateTemplate
