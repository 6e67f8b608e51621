import DateTemplate.Proofs.Field.Overrun
import DateTemplate.Proofs.Layout.Grammar
import DateTemplate.Proofs.Template.Text

/-!
# When a reader keeps step with a template

Text that was written with a template is read with the template's layout. The reader keeps step if it
reads each token from the text that was written for it.

* `Template.InStep`, `Template.Overruns`: whether a reader keeps step, and whether some specifier takes
  digits of the text that follows it.
* `Token.noOverrun_iff`: the items of a template have no overrun exactly if no specifier overruns.
* `Template.inStep_iff`: a reader keeps step exactly if no specifier overruns.
-/

namespace DateTemplate

open Bytes

/-! ## Texts that tell what they were written for -/

namespace Token

/-- Whether the text of the token tells what the token stands for. -/
def Readable (z : Instant) : Token → Prop
  | literal c => ¬ c.isDigit
  | specifier s => ∃ items, s.items? = some items ∧ ∀ i ∈ items, i.Readable z

theorem render_eq {z : Instant} {t : Token} (hr : t.Readable z) :
    t.render z = t.layoutItems.flatMap (Item.render z) := by
  cases t with
  | literal c => rfl
  | specifier s =>
    obtain ⟨items, hs, -⟩ := hr
    rw [render_specifier z hs, layoutItems, hs, Option.getD_some]

theorem flatMap_render_eq {z : Instant} {ts : List Token} (hr : ∀ t ∈ ts, t.Readable z) :
    ts.flatMap (render z) = (ts.flatMap layoutItems).flatMap (Item.render z) := by
  rw [List.flatMap_assoc]
  exact List.flatMap_congr fun t ht => render_eq (hr t ht)

theorem readable_layoutItems {z : Instant} {ts : List Token} (hr : ∀ t ∈ ts, t.Readable z) :
    ∀ i ∈ ts.flatMap layoutItems, i.Readable z := by
  intro i hi
  obtain ⟨t, ht, hi⟩ := List.mem_flatMap.1 hi
  have ht := hr t ht
  cases t with
  | literal c =>
    obtain rfl := List.mem_singleton.1 hi
    trivial
  | specifier s =>
    obtain ⟨items, hs, hall⟩ := ht
    exact hall i (by simpa [layoutItems, hs] using hi)

end Token

/-- The tokens of a layout are readable for the years that two digits tell and for offsets without
seconds, as far as these matter. -/
theorem Layout.Grammatical.readable_tokens {ts : List Token} (hg : Grammatical ts) {z : Instant}
    (hc : (∃ s, .specifier s ∈ ts ∧ s.directive ∈ ['y', 'D', 'x']) →
      1969 ≤ z.date.year ∧ z.date.year ≤ 2068)
    (ho : (∃ s, .specifier s ∈ ts ∧ s.directive = 'z') → z.offset.restSeconds = 0) :
    ∀ t ∈ ts, t.Readable z := by
  intro t ht
  cases t with
  | literal c => exact hg.not_isDigit c ht
  | specifier s =>
    obtain ⟨items, hs, hz⟩ := hg.readable s ht
    refine ⟨items, hs, fun i hi => ?_⟩
    cases i with
    | literal c => trivial
    | field f =>
      cases f with
      | number q p =>
        cases q with
        | year => exact Specifier.year_padding_ne hs hi
        | yearOfCentury => exact hc ⟨s, ht, Specifier.directive_of_yearOfCentury hs hi⟩
        | _ => trivial
      | offset => exact ho ⟨s, ht, Specifier.directive_of_offset hs hi⟩
      | zoneName => exact hz hi
      | _ => trivial

/-! ## Digits behind a token -/

/-- A text of readable tokens begins with digits only if the first token begins with a number. -/
theorem Token.exists_of_digitsAtStart_pos {z : Instant} {ts : List Token}
    (hr : ∀ t ∈ ts, t.Readable z) (h : 1 ≤ digitsAtStart (ts.flatMap (render z))) :
    ∃ s us, ts = .specifier s :: us ∧ Item.startsWithNumber (Token.specifier s).layoutItems := by
  cases ts with
  | nil => simp [digitsAtStart] at h
  | cons t ts =>
    have ht := hr t List.mem_cons_self
    rw [List.flatMap_cons, render_eq ht] at h
    cases t with
    | literal c =>
      have hc : ¬ c.isDigit := ht
      simp [layoutItems, Item.render, digitsAtStart, hc] at h
    | specifier s =>
      refine ⟨s, ts, rfl, Decidable.byContradiction fun hn => ?_⟩
      obtain ⟨items, hs, hall⟩ := ht
      obtain ⟨i, is, rfl, hi⟩ := Specifier.exists_items_eq_cons hs
      simp only [layoutItems, hs, Option.getD_some] at h hn
      obtain ⟨c, cs, hc, hd⟩ :=
        Item.exists_render_eq_cons (hall i List.mem_cons_self) (hi hn)
      simp [hc, digitsAtStart, hd] at h

/-! ## Overruns -/

/-- Whether a reader takes digits for the token that stand behind its text. -/
def Token.Overruns (z : Instant) (following : List Char) : Token → Prop
  | literal _ => False
  | specifier s => s.Overruns z following

/-- Whether a reader takes digits for some token that were written for the tokens behind it. -/
def Template.Overruns (t : Template) (z : Instant) : Prop :=
  ∃ us u vs, t.tokens = us ++ u :: vs ∧ u.Overruns z (vs.flatMap (Token.render z))

namespace Token

/-- If no digit follows a number whose width is open, what a token stands for has an overrun exactly
if the token overruns. -/
theorem noOverrun_layoutItems_iff {z : Instant} {t : Token} (hr : t.Readable z) (cs : List Char)
    (hopen : Item.endsWithOpenNumber t.layoutItems → digitsAtStart cs = 0) :
    Item.NoOverrun z (utf8 cs) t.layoutItems ↔ ¬ t.Overruns z cs := by
  cases t with
  | literal c => simp [layoutItems, Item.NoOverrun, Item.overrun, Overruns]
  | specifier s =>
    obtain ⟨items, hs, hall⟩ := hr
    simp only [layoutItems, hs, Option.getD_some] at hopen ⊢
    exact Specifier.noOverrun_iff hs hall cs hopen

/-- The items of tokens have no overrun if those of each token have none. -/
theorem noOverrun_flatMap_iff {z : Instant} {ts : List Token} (hr : ∀ t ∈ ts, t.Readable z) :
    Item.NoOverrun z [] (ts.flatMap layoutItems) ↔ ∀ us u vs, ts = us ++ u :: vs →
      Item.NoOverrun z (utf8 (vs.flatMap (render z))) u.layoutItems := by
  induction ts with
  | nil => simp [Item.NoOverrun]
  | cons t ts ih =>
    have hrs : ∀ u ∈ ts, u.Readable z := fun u hu => hr u (List.mem_cons_of_mem t hu)
    have hsplit := @forall_split_cons_iff _
      (fun _ u vs => Item.NoOverrun z (utf8 (vs.flatMap (render z))) u.layoutItems) t ts
    rw [hsplit, ← ih hrs, List.flatMap_cons, Item.noOverrun_append, List.append_nil,
      ← flatMap_render_eq hrs]

/-- The items of tokens have no overrun exactly if no token overruns. -/
theorem noOverrun_iff {z : Instant} {ts : List Token} (hr : ∀ t ∈ ts, t.Readable z)
    (ha : ∀ s s' : Specifier, [.specifier s, .specifier s'] <:+: ts →
      Item.endsWithOpenNumber (Token.specifier s).layoutItems →
      ¬ Item.startsWithNumber (Token.specifier s').layoutItems) :
    Item.NoOverrun z [] (ts.flatMap layoutItems) ↔
      ∀ us u vs, ts = us ++ u :: vs → ¬ u.Overruns z (vs.flatMap (render z)) := by
  rw [noOverrun_flatMap_iff hr]
  refine forall_congr' fun us => forall_congr' fun u => forall_congr' fun vs =>
    forall_congr' fun hts => noOverrun_layoutItems_iff (hr u (by simp [hts])) _ ?_
  intro hend
  -- A digit behind the open number would be that of a number there, which the layout rules out.
  apply Nat.eq_zero_of_not_pos
  intro hpos
  obtain ⟨s', ws, rfl, hstart⟩ :=
    exists_of_digitsAtStart_pos (fun v hv => hr v (by simp [hts, hv])) hpos
  cases u with
  | literal c => simp [layoutItems, Item.endsWithOpenNumber, Item.field?] at hend
  | specifier s => exact ha s s' ⟨us, ws, by simp [hts]⟩ hend hstart

theorem isChain_parted (t : Token) : t.layoutItems.IsChain fun i j => Item.parted i j := by
  cases t with
  | literal c => exact .singleton _
  | specifier s =>
    cases hs : s.items? with
    | none => simp [layoutItems, hs]
    | some items => simpa [layoutItems, hs] using Specifier.isChain_parted hs

end Token

/-! ## Keeping step -/

namespace Template

/-- Whether a reader keeps step with the template. When it has read some of the tokens, what is left
to it is what was written for the others, or that text without the blanks at its start. -/
def InStep (t : Template) (z : Instant) : Prop :=
  ∀ us vs, t.tokens = us ++ vs → ∃ es bs,
    Item.readSequence? (us.flatMap Token.layoutItems) (utf8 (t.format z).toList) = some (es, bs) ∧
      UpToBlanks (utf8 (vs.flatMap (Token.render z))) bs

variable {t : Template} {z : Instant} {l : Layout}

/-- The tokens of a template with a layout are readable for the years that two digits tell and for
offsets without seconds, as far as these matter. -/
theorem readable_tokens (hl : t.layout = .ok l)
    (hc : (∃ s ∈ t.specifiers, s.directive ∈ ['y', 'D', 'x']) →
      1969 ≤ z.date.year ∧ z.date.year ≤ 2068)
    (ho : (∃ s ∈ t.specifiers, s.directive = 'z') → z.offset.restSeconds = 0) :
    ∀ u ∈ t.tokens, u.Readable z := by
  simp only [mem_specifiers] at hc ho
  exact (grammatical_of_layout hl).readable_tokens hc ho

theorem noOverrun_iff (hl : t.layout = .ok l) (hr : ∀ u ∈ t.tokens, u.Readable z) :
    Item.NoOverrun z [] l.items ↔ ¬ t.Overruns z := by
  rw [items_of_layout hl, Token.noOverrun_iff hr (grammatical_of_layout hl).not_adjacent]
  simp [Overruns]

/-- **Keeping step.** A reader keeps step exactly if no token overruns. -/
theorem inStep_iff (hl : t.layout = .ok l) (hr : ∀ u ∈ t.tokens, u.Readable z) :
    t.InStep z ↔ ¬ t.Overruns z := by
  have htext := t.toList_format z
  rw [← noOverrun_iff hl hr, items_of_layout hl]
  constructor
  · intro h
    rw [Token.noOverrun_flatMap_iff hr]
    intro us u vs hts
    obtain ⟨es, bs, hread, hb⟩ := h us (u :: vs) hts
    obtain ⟨fs, bs', hread', hb'⟩ := h (us ++ [u]) vs (by simp [hts])
    have hu : u.Readable z := hr u (by simp [hts])
    simp only [List.flatMap_append, List.flatMap_singleton, Item.readSequence?_append, hread,
      Option.bind_eq_bind, Option.bind_some, Option.bind_eq_some_iff] at hread'
    obtain ⟨⟨gs, bs''⟩, hlast, heq⟩ := hread'
    cases heq
    rw [List.flatMap_cons, utf8_append, Token.render_eq hu] at hb
    refine Item.noOverrun_of_readSequence? u.isChain_parted ?_ hb hlast hb'
    intro i hi
    exact Token.readable_layoutItems hr i (List.mem_flatMap.2 ⟨u, by simp [hts], hi⟩)
  · -- What the tokens `us` leave to the reader is the text of the others, up to blanks.
    intro ho us vs hts
    have hus : ∀ u ∈ us, u.Readable z := fun u hu => hr u (by simp [hts, hu])
    have hvs : ∀ u ∈ vs, u.Readable z := fun u hu => hr u (by simp [hts, hu])
    rw [hts, List.flatMap_append, Item.noOverrun_append, List.append_nil,
      ← Token.flatMap_render_eq hvs] at ho
    obtain ⟨bs, hread, hb⟩ :=
      Item.readSequence?_render (Token.readable_layoutItems hus) ho.1 (.refl _)
    refine ⟨Item.entries z (us.flatMap Token.layoutItems), bs, ?_, hb⟩
    rw [htext, hts, List.flatMap_append, utf8_append, Token.flatMap_render_eq hus]
    exact hread

/-- Without overruns a reader finds what the fields of the template tell. -/
theorem readSequence?_format (hl : t.layout = .ok l) (hr : ∀ u ∈ t.tokens, u.Readable z)
    (ho : ¬ t.Overruns z) :
    Item.readSequence? l.items (utf8 (t.format z).toList) = some (Item.entries z l.items, []) := by
  rw [← noOverrun_iff hl hr, items_of_layout hl] at ho
  rw [t.toList_format, Token.flatMap_render_eq hr, items_of_layout hl]
  exact Item.readAll?_render (Token.readable_layoutItems hr) ho

/-- What is read of a text is what its entries make, if they reach to its end. -/
theorem read_eq_ok_iff (hl : t.layout = .ok l) (input : List UInt8) (r : Reading) :
    t.read input = .ok r ↔
      ∃ es, Item.readSequence? l.items input = some (es, []) ∧ r = Reading.ofEntries es := by
  simp only [read, hl, Layout.read?, Item.readAll?]
  cases Item.readSequence? l.items input with
  | none => simp
  | some p =>
    obtain ⟨es, bs⟩ := p
    cases bs with
    | nil => simp [@eq_comm _ r]
    | cons b bs => simp [failure]

theorem read_format_eq_ok (hl : t.layout = .ok l) (hr : ∀ u ∈ t.tokens, u.Readable z)
    (ho : ¬ t.Overruns z) :
    t.read (utf8 (t.format z).toList) = .ok (Reading.ofEntries (Item.entries z l.items)) :=
  (read_eq_ok_iff hl _ _).2 ⟨_, readSequence?_format hl hr ho, rfl⟩

/-- **Greedy numbers.** In the years that two digits tell and at an offset of whole minutes, a reader
keeps step exactly if two digits never follow an offset and no digit follows a fraction of a second
with fewer than nine digits. Then it can read the text. -/
theorem inStep_iff_digitsAtStart (hl : t.layout = .ok l)
    (hy : 1969 ≤ z.date.year ∧ z.date.year ≤ 2068) (ho : z.offset.restSeconds = 0) :
    (t.InStep z ↔ ∀ us s vs, t.tokens = us ++ .specifier s :: vs →
      (s.directive = 'z' → digitsAtStart (vs.flatMap (Token.render z)) < 2) ∧
      (s.directive ∈ ['L', 'f'] → digitsAtStart (vs.flatMap (Token.render z)) = 0)) ∧
    (t.InStep z → ∃ r, t.read (utf8 (t.format z).toList) = .ok r) := by
  have hr := readable_tokens hl (fun _ => hy) (fun _ => ho)
  refine ⟨?_, fun h => ⟨_, read_format_eq_ok hl hr ((inStep_iff hl hr).1 h)⟩⟩
  rw [inStep_iff hl hr]
  constructor
  · intro h us s vs hts
    have hs : ¬ s.Overruns z (vs.flatMap (Token.render z)) := fun ho => h ⟨us, _, vs, hts, ho⟩
    rw [Specifier.overruns_iff_of_nonneg (by omega), not_or] at hs
    exact ⟨fun hd => Nat.not_le.1 fun hn => hs.1 ⟨hd, hn⟩,
      fun hd => Nat.eq_zero_of_not_pos fun hn => hs.2 ⟨hd, hn⟩⟩
  · rintro h ⟨us, u, vs, hts, ho⟩
    cases u with
    | literal c => exact ho
    | specifier s =>
      obtain ⟨hz, hf⟩ := h us s vs hts
      rcases (Specifier.overruns_iff_of_nonneg (by omega) _ s).1 ho with ⟨hd, hn⟩ | ⟨hd, hn⟩
      · exact Nat.not_lt.2 hn (hz hd)
      · exact Nat.ne_of_gt hn (hf hd)

/-- One digit behind an offset is not enough for seconds. -/
theorem inStep_offset_day :
    let t : Template := ⟨"%z%-d"⟩
    let z : Instant := ⟨1249625104000000000, .utc, none, by decide, by decide⟩
    z.date.year = 2009 ∧ z.offset.restSeconds = 0 ∧ (∃ l, t.layout = .ok l) ∧ t.InStep z ∧
      ∃ r, t.read (utf8 (t.format z).toList) = .ok r := by
  refine ⟨by decide, by decide, ?_⟩
  obtain ⟨l, hl⟩ : ∃ l, Template.layout ⟨"%z%-d"⟩ = .ok l := ⟨_, rfl⟩
  obtain ⟨hstep, hread⟩ := inStep_iff_digitsAtStart
    (z := ⟨1249625104000000000, .utc, none, by decide, by decide⟩) hl (by decide) (by decide)
  have hin := hstep.2 fun us s vs hts => by
    have htokens : Template.tokens ⟨"%z%-d"⟩ = [.specifier ⟨'z', true⟩, .specifier ⟨'d', false⟩] := rfl
    rw [htokens] at hts
    match us with
    | [] =>
      cases hts
      exact ⟨fun _ => by decide +kernel, by decide⟩
    | [_] =>
      cases hts
      exact ⟨by decide, by decide⟩
    | _ :: _ :: _ => simp at hts
  exact ⟨⟨l, hl⟩, hin, hread hin⟩

/-- Two digits behind an offset are read as its seconds. -/
theorem not_inStep_offset_year :
    let t : Template := ⟨"%z%Y"⟩
    let z : Instant := ⟨1249625104000000000, .utc, none, by decide, by decide⟩
    z.date.year = 2009 ∧ z.offset.restSeconds = 0 ∧ (∃ l, t.layout = .ok l) ∧ ¬ t.InStep z ∧
      t.read (utf8 (t.format z).toList) =
        .ok { year := some 9, offset := some ⟨20, by decide, by decide⟩ } := by
  refine ⟨by decide, by decide, ⟨_, rfl⟩, fun h => ?_, by decide +kernel⟩
  obtain ⟨l, hl⟩ : ∃ l, Template.layout ⟨"%z%Y"⟩ = .ok l := ⟨_, rfl⟩
  have hr := readable_tokens (z := ⟨1249625104000000000, .utc, none, by decide, by decide⟩) hl
    (by decide) (by decide)
  refine (inStep_iff hl hr).1 h ⟨[], _, [.specifier ⟨'Y', true⟩], rfl, ?_⟩
  change 2 ≤ digitsAtStart _
  decide +kernel

end Template

end DateTemplate
