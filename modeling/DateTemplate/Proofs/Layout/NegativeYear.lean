import DateTemplate.Proofs.Field.Adrift
import DateTemplate.Proofs.Layout.RoundTrip

/-!
# Negative years in formatted texts

The minus sign of a year counts toward its width, so from year -999 on there are only three digits
behind it. A reader takes up to four, and with them a digit that directly follows the year.

* `Reading.AgreesOnDate`: whether a reading says nothing else of the date than the instant.
* `Template.exists_year_of_overruns`: what is read for a year when a digit directly follows it.
* `Template.read_format_of_year_neg`: the years of a text are read back exactly if no digit directly
  follows one of them that has three digits.
-/

namespace DateTemplate

open Bytes

/-- Whether each part of the date that has been read is that of the instant. -/
structure Reading.AgreesOnDate (r : Reading) (z : Instant) : Prop where
  year : ∀ n ∈ r.year, n = z.date.year
  month : ∀ m ∈ r.month, m = z.date.month
  day : ∀ n ∈ r.day, n = z.date.day
  dayOfYear : ∀ n ∈ r.dayOfYear, n = z.date.dayOfYear

theorem forall_mem_eq_of_eq_map {α β : Type} {a : α} {told : Option α} {last : Option β}
    (h : told = last.map fun _ => a) : ∀ b ∈ told, b = a := by
  intro b hb
  rw [h] at hb
  obtain ⟨-, -, rfl⟩ := Option.map_eq_some_iff.1 hb
  rfl

theorem Reading.Tells.agreesOnDate {r : Reading} {z : Instant} {fs : List Field} (h : r.Tells z fs) :
    r.AgreesOnDate z where
  year := forall_mem_eq_of_eq_map h.year
  month := forall_mem_eq_of_eq_map h.month
  day := forall_mem_eq_of_eq_map h.day
  dayOfYear := forall_mem_eq_of_eq_map h.dayOfYear

/-- The year of a reading is that of its last entry for a year. -/
theorem Reading.year_ofEntries {es fs : List Entry} (n : Int) (h : ∀ m, .year m ∉ fs) :
    (ofEntries (es ++ .year n :: fs)).year = some n := by
  have hfs : fs.filterMap (fun e => (record {} e).year) = [] := by
    refine List.filterMap_eq_nil_iff.2 fun e he => ?_
    cases e with
    | year m => exact absurd he (h m)
    | _ => rfl
  rw [@get_ofEntries _ Reading.year (fun r e => by cases e <;> rfl) rfl, List.filterMap_append,
    List.filterMap_cons, hfs]
  exact List.getLast?_concat

/-! ## Years in a layout -/

namespace Specifier

/-- The specifiers that tell the year. -/
theorem directive_of_year {s : Specifier} {items : List Item} (h : s.items? = some items)
    {f : Field} (hf : .field f ∈ items) (hy : f.part? = some .year) :
    .field .zoneName ∈ items ∨ s.directive ∈ ['y', 'D', 'x'] ∨ s.directive ∈ ['Y', 'F', 'c', 'v'] :=
  forall_of_layoutSpecifiers
    (P := fun s items => ∀ i ∈ items, i.field?.bind Field.part? = some .year →
      .field .zoneName ∈ items ∨ s.directive ∈ ['y', 'D', 'x'] ∨ s.directive ∈ ['Y', 'F', 'c', 'v'])
    (by decide) h _ hf hy

end Specifier

namespace Template

variable {t : Template} {z : Instant} {l : Layout}

theorem not_isDigit_of_literal_mem (hl : t.layout = .ok l) {c : Char} (hc : .literal c ∈ l.items) :
    ¬ c.isDigit := by
  have hg := grammatical_of_layout hl
  rw [items_of_layout hl] at hc
  obtain ⟨u, hu, hc⟩ := List.mem_flatMap.1 hc
  cases u with
  | literal d =>
    obtain rfl : c = d := by simpa [Token.layoutItems] using hc
    exact hg.not_isDigit c hu
  | specifier s =>
    obtain ⟨items, hs, -⟩ := hg.readable s hu
    have hn := Specifier.not_isAlphanum_of_literal_mem hs (by simpa [Token.layoutItems, hs] using hc)
    exact fun hdigit => hn (by simp [Char.isAlphanum, hdigit])

/-- Where no number follows an offset or a short fraction of a second, only a year overruns, which is
the last item of its specifier. -/
theorem exists_layoutItems_eq (hr : ∀ u ∈ t.tokens, u.Readable z)
    (hadj : ¬ t.NumberFollows ['z', 'L', 'f']) {us vs : List Token} {s : Specifier}
    (hts : t.tokens = us ++ .specifier s :: vs) (ho : s.Overruns z (vs.flatMap (Token.render z))) :
    ∃ init, (Token.specifier s).layoutItems = init ++ [.field (.number .year .zeros)] ∧
      (Field.number .year .zeros).overrun z (utf8 (vs.flatMap (Token.render z))) ≠ [] := by
  obtain ⟨items, hs, -⟩ := hr (.specifier s) (by simp [hts])
  obtain ⟨hpos, hd⟩ := ho.directive_mem
  obtain ⟨hd, -⟩ := hd.resolve_left fun hd => by
    obtain ⟨s', ws, rfl, hstart⟩ :=
      Token.exists_of_digitsAtStart_pos (fun v hv => hr v (by simp [hts, hv])) hpos
    exact hadj ⟨s, s', ⟨us, ws, by simp [hts]⟩, hd, hstart⟩
  have hlast : items.getLast? = some (.field (.number .year .zeros)) := by
    rcases Specifier.getLast?_items hs with ⟨h, -⟩ | ⟨h, -⟩ | ⟨h, -⟩ | ⟨-, h⟩ | ⟨h, -⟩
    · simp [h] at hd
    · simp [h] at hd
    · simp [h] at hd
    · exact h
    · exact absurd (by simp_all) h
  obtain ⟨init, rfl⟩ := List.getLast?_eq_some_iff.1 hlast
  refine ⟨init, by simp [Token.layoutItems, hs], fun hnil => ?_⟩
  rw [Field.overrun_year_eq_nil_iff, startsWithDigit_utf8_iff] at hnil
  exact hnil ((Specifier.overruns_iff_of_year hd).1 ho)

/-- A year that a digit directly follows is read as another year, whatever comes before it. -/
theorem exists_year_of_overruns (hl : t.layout = .ok l) (hr : ∀ u ∈ t.tokens, u.Readable z)
    (hneg : z.date.year < 0) (hadj : ¬ t.NumberFollows ['z', 'L', 'f']) {us vs : List Token}
    {s : Specifier} (hts : t.tokens = us ++ .specifier s :: vs)
    (ho : s.Overruns z (vs.flatMap (Token.render z))) {es : List Entry}
    (h : Item.readSequence? l.items (utf8 (t.format z).toList) = some (es, [])) :
    ∃ es₁ n bs es₂, es = es₁ ++ .year n :: es₂ ∧ n ≠ z.date.year ∧
      Item.readSequence? (vs.flatMap Token.layoutItems) bs = some (es₂, []) := by
  obtain ⟨init, hinit, hover⟩ := exists_layoutItems_eq hr hadj hts ho
  have hvs : ∀ v ∈ vs, v.Readable z := fun v hv => hr v (by simp [hts, hv])
  have hitems : l.items = us.flatMap Token.layoutItems ++ init ++
      .field (.number .year .zeros) :: vs.flatMap Token.layoutItems := by
    rw [items_of_layout hl, hts, List.flatMap_append, List.flatMap_cons, hinit]
    simp
  have hrl : ∀ i ∈ l.items, i.Readable z := by
    rw [items_of_layout hl]
    exact Token.readable_layoutItems hr
  have hd : ∀ c, .literal c ∈ us.flatMap Token.layoutItems ++ init → ¬ c.isDigit := fun c hc =>
    not_isDigit_of_literal_mem hl (hitems ▸ List.mem_append_left _ hc)
  have htext : utf8 (t.format z).toList = utf8 (l.items.flatMap (Item.render z)) ++ [] := by
    rw [t.toList_format, Token.flatMap_render_eq hr, items_of_layout hl, List.append_nil]
  rw [Token.flatMap_render_eq hvs, ← List.append_nil (utf8 _)] at hover
  rw [htext] at h
  rw [hitems] at h hrl
  exact Item.exists_year_of_readSequence? hrl hneg hd hover (.refl _) h

/-- **Negative years.** The text of an instant in a negative year is read back with that year in every
place exactly if no digit directly follows a year of three digits, and then the rest of the date is
right as well. Where a digit follows the last year of the text, what is read is another year. -/
theorem read_format_of_year_neg (hl : t.layout = .ok l) (hadj : ¬ t.NumberFollows ['z', 'L', 'f'])
    (hc : ∀ s ∈ t.specifiers, s.directive ∉ ['y', 'D', 'x']) (hneg : z.date.year < 0)
    (ho : z.offset.restSeconds = 0) :
    (¬ t.Overruns z → ∃ r, t.read (utf8 (t.format z).toList) = .ok r ∧ r.AgreesOnDate z) ∧
    (¬ t.Overruns z ↔
      ∃ es, Item.readSequence? l.items (utf8 (t.format z).toList) = some (es, []) ∧
        ∀ n, .year n ∈ es → n = z.date.year) ∧
    ∀ us s vs, t.tokens = us ++ .specifier s :: vs → s.Overruns z (vs.flatMap (Token.render z)) →
      (∀ s', .specifier s' ∈ vs → s'.directive ∉ ['Y', 'F', 'c', 'v']) →
      ∀ r, t.read (utf8 (t.format z).toList) = .ok r → ∃ n, r.year = some n ∧ n ≠ z.date.year := by
  have hr := readable_tokens hl (fun ⟨s, hs, hd⟩ => absurd hd (hc s hs)) (fun _ => ho)
  refine ⟨?_, ⟨?_, ?_⟩, ?_⟩
  · intro hover
    refine ⟨_, read_format_eq_ok hl hr hover, ?_⟩
    rw [entries_layout hl]
    exact (Reading.tells_ofEntries z t.fields).agreesOnDate
  · intro hover
    refine ⟨_, readSequence?_format hl hr hover, ?_⟩
    intro n hn
    exact Item.eq_year_of_mem_entries hn
  · rintro ⟨es, hread, hes⟩ ⟨us, u, vs, hts, hu⟩
    cases u with
    | literal c => exact hu
    | specifier s =>
      obtain ⟨es₁, n, bs, es₂, rfl, hn, -⟩ := exists_year_of_overruns hl hr hneg hadj hts hu hread
      exact hn (hes n (by simp))
  · intro us s vs hts hs hlast r h
    obtain ⟨es, hread, rfl⟩ := (read_eq_ok_iff hl _ _).1 h
    obtain ⟨es₁, n, bs, es₂, rfl, hn, hrest⟩ := exists_year_of_overruns hl hr hneg hadj hts hs hread
    refine ⟨n, Reading.year_ofEntries n fun m hm => ?_, hn⟩
    obtain ⟨f, hf, hpart⟩ := Item.exists_field_of_mem hrest hm
    obtain ⟨u, hu, hf⟩ := List.mem_flatMap.1 hf
    cases u with
    | literal c => simp [Token.layoutItems] at hf
    | specifier s' =>
      obtain ⟨items, hs', hall⟩ := hr (.specifier s') (by simp [hts, hu])
      rw [Token.layoutItems, hs', Option.getD_some] at hf
      rcases Specifier.directive_of_year hs' hf hpart with hz | hy | hy
      · exact hall _ hz
      · exact hc s' (mem_specifiers.2 (by simp [hts, hu])) hy
      · exact hlast s' hu hy

/-- A year of four digits leaves no room for another one. -/
theorem read_format_year_four_digits :
    let t : Template := ⟨"%Y%m%d"⟩
    let z : Instant := ⟨-101108088000000000000, .utc, none, by decide, by decide⟩
    (∃ l, t.layout = .ok l) ∧ ¬ t.NumberFollows ['z', 'L', 'f'] ∧
      (∀ s ∈ t.specifiers, s.directive ∉ ['y', 'D', 'x']) ∧ z.date.year = -1234 ∧
      z.offset.restSeconds = 0 ∧
      ∃ r, t.read (utf8 (t.format z).toList) = .ok r ∧ r.AgreesOnDate z := by
  refine ⟨⟨_, rfl⟩, by decide, by decide, by decide, by decide, ?_⟩
  obtain ⟨l, hl⟩ : ∃ l, Template.layout ⟨"%Y%m%d"⟩ = .ok l := ⟨_, rfl⟩
  have hr := readable_tokens
    (z := ⟨-101108088000000000000, .utc, none, by decide, by decide⟩) hl (by decide) (by decide)
  refine (read_format_of_year_neg hl (by decide) (by decide) (by decide) (by decide)).1 ?_
  rintro ⟨us, u, vs, hts, hu⟩
  cases u with
  | literal c => exact hu
  | specifier s =>
    obtain ⟨-, -, hover⟩ := exists_layoutItems_eq hr (by decide) hts hu
    exact hover ((Field.overrun_year_eq_nil_iff _ _).2 fun h => absurd h.1 (by decide))

/-- The first digit of a month is read as the fourth digit of the year before it. -/
theorem read_format_year_three_digits :
    let t : Template := ⟨"%Y%m%d"⟩
    let z : Instant := ⟨-62324596800000000000, .utc, none, by decide, by decide⟩
    (∃ l, t.layout = .ok l) ∧ ¬ t.NumberFollows ['z', 'L', 'f'] ∧
      (∀ s ∈ t.specifiers, s.directive ∉ ['y', 'D', 'x']) ∧ z.date.year = -5 ∧
      z.date.month = .january ∧ z.date.day = 5 ∧ z.offset.restSeconds = 0 ∧
      t.read (utf8 (t.format z).toList) =
        .ok { year := some (-50), month := some .october, day := some 5 } :=
  ⟨⟨_, rfl⟩, by decide, by decide, by decide, by decide, by decide, by decide, by decide +kernel⟩

end Template

end DateTemplate
