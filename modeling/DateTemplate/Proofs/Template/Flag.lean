import DateTemplate.Proofs.Layout.Grammar
import DateTemplate.Proofs.Pattern.Quoting
import DateTemplate.Proofs.Template.Text
import DateTemplate.Proofs.Text.Decimal
import Mathlib.Data.List.Forall2

/-!
# The flag that asks for no padding

Without its flags a template still has a layout and a pattern if it had one, and its texts show the same
values.

* `Template.tokens_dropFlags`: the tokens of a template without flags.
* `Item.zeroFilled`: what becomes of the items of a specifier (`Token.layoutItems_dropFlag`).
* `Before.Eased`: tokens without flags leave behind what allows the next one if it was allowed before
  (`Before.Eased.allows`), step by step (`Before.Eased.next`, `Before.Eased.after`).
* `Specifier.Unpadded`: whether the flag of a specifier has an effect on texts.
* `Segment.Unpads`: what the effect is. `Token.unpads_segment` says that there is no other.
* `Template.layout_pattern_format_dropFlags`: all of this for a template.
-/

namespace DateTemplate

/-! ## Tokens without flags -/

/-- The specifier, without the flag if it is `known`. -/
def Specifier.dropFlag (known : Specifier → Bool) (s : Specifier) : Specifier :=
  if known s then s.withPadding else s

@[simp] theorem Specifier.directive_dropFlag (known : Specifier → Bool) (s : Specifier) :
    (s.dropFlag known).directive = s.directive := by
  rw [dropFlag, apply_ite directive, withPadding, ite_self]

/-- The token, without the flag if it is a specifier that is `known`. -/
def Token.dropFlag (known : Specifier → Bool) : Token → Token
  | literal c => literal c
  | specifier s => specifier (s.dropFlag known)

namespace Template

variable {known : Specifier → Bool}

theorem tokens_dropFlags (hknown : ∀ s, known s → s.directive ≠ '-') (t : Template) :
    (t.dropFlags known).tokens = t.tokens.map (Token.dropFlag known) := by
  have htext (s : Specifier) : (if known s then s.withPadding.text else s.text) =
      (Token.specifier (s.dropFlag known)).text := by
    rw [Specifier.dropFlag, Token.text, apply_ite Specifier.text]
  have hclosed : ∀ s ∈ t.specifiers, (Token.specifier (s.dropFlag known)).Closed := by
    intro s hs
    rw [Specifier.dropFlag]
    split
    · next hk => exact (Token.closed_specifier_iff _).2 fun _ => hknown s hk
    · exact Token.closed_of_mem_scan (mem_specifiers.1 hs)
  -- A `%--` without its flag would be the beginning of another escape, so it must not be `known`.
  simp only [dropFlags, htext]
  rw [tokens_mapSpecifiers hclosed, List.map_eq_flatMap]
  refine List.flatMap_congr fun u hu => ?_
  cases u with
  | literal c => rfl
  | specifier s => exact Token.scan_text (hclosed s (mem_specifiers.2 hu))

theorem specifiers_dropFlags (hknown : ∀ s, known s → s.directive ≠ '-') (t : Template) :
    (t.dropFlags known).specifiers = t.specifiers.map (Specifier.dropFlag known) := by
  rw [specifiers, tokens_dropFlags hknown, specifiers, List.filterMap_map, List.map_filterMap]
  congr 1
  funext u
  cases u <;> rfl

end Template

/-! ## Layouts -/

/-- The item, filled up with zeros if it is a number that is not filled up. -/
def Item.zeroFilled : Item → Item
  | field (.number q .none) => field (.number q .zeros)
  | i => i

namespace Item

/-- Only numbers that are not filled up are changed. -/
theorem zeroFilled_cases (i : Item) : (∃ q, i = field (.number q .none)) ∨ i.zeroFilled = i := by
  unfold zeroFilled
  split
  · exact .inl ⟨_, rfl⟩
  · exact .inr rfl

theorem zeroFilled_eq_zoneName_iff (i : Item) : i.zeroFilled = field .zoneName ↔ i = field .zoneName := by
  rcases i.zeroFilled_cases with ⟨q, rfl⟩ | h
  · simp [zeroFilled]
  · rw [h]

theorem zoneName_mem_map_zeroFilled_iff (items : List Item) :
    field .zoneName ∈ items.map zeroFilled ↔ field .zoneName ∈ items := by
  simp [zeroFilled_eq_zoneName_iff]

theorem isNumber_zeroFilled (i : Item) :
    i.zeroFilled.field?.any Field.isNumber = i.field?.any Field.isNumber := by
  rcases i.zeroFilled_cases with ⟨q, rfl⟩ | h
  · rfl
  · rw [h]

/-- A number whose width is open may get a fixed width, and no other way round. -/
theorem isOpenNumber_of_zeroFilled {i : Item} (h : i.zeroFilled.field?.any Field.isOpenNumber) :
    i.field?.any Field.isOpenNumber := by
  rcases i.zeroFilled_cases with ⟨q, rfl⟩ | heq
  · rfl
  · rwa [heq] at h

theorem startsWithNumber_map_zeroFilled (items : List Item) :
    startsWithNumber (items.map zeroFilled) = startsWithNumber items := by
  rw [startsWithNumber, startsWithNumber, List.head?_map]
  cases items.head? with
  | none => rfl
  | some i => exact i.isNumber_zeroFilled

theorem endsWithOpenNumber_of_map_zeroFilled {items : List Item}
    (h : endsWithOpenNumber (items.map zeroFilled)) : endsWithOpenNumber items := by
  rw [endsWithOpenNumber, List.getLast?_map] at h
  rw [endsWithOpenNumber]
  cases hlast : items.getLast? with
  | none => simp [hlast] at h
  | some i =>
    rw [hlast] at h
    exact isOpenNumber_of_zeroFilled h

end Item

/-- Whether the specifier stands for something that layouts know. -/
def Specifier.inLayout (s : Specifier) : Bool := s.items?.isSome

theorem Specifier.items?_withPadding {s : Specifier} {items : List Item} (h : s.items? = some items) :
    s.withPadding.items? = some (items.map Item.zeroFilled) :=
  forall_of_layoutSpecifiers
    (P := fun s items => s.withPadding.items? = some (items.map Item.zeroFilled)) (by decide) h

theorem Token.layoutItems_dropFlag (t : Token) : (dropFlag Specifier.inLayout t).layoutItems =
    t.layoutItems.map Item.zeroFilled := by
  cases t with
  | literal c => rfl
  | specifier s =>
    cases hs : s.items? with
    | none => simp [dropFlag, Specifier.dropFlag, Specifier.inLayout, layoutItems, hs]
    | some items =>
      simp [dropFlag, Specifier.dropFlag, Specifier.inLayout, layoutItems, hs,
        Specifier.items?_withPadding hs]

namespace Before

variable {b b' : Before}

/-- Whether `b'` allows what `b` allows. The literal characters are the same, and a number whose width was
open may have a fixed one. -/
structure Eased (b b' : Before) : Prop where
  run : b'.run = b.run
  openNumber : b.openNumber? = none → b'.openNumber? = none

/-- **One step.** A token that was allowed is allowed without its flag too. -/
theorem Eased.allows (h : Eased b b') {t : Token} (ht : b.Allows t) :
    b'.Allows (t.dropFlag Specifier.inLayout) := by
  cases t with
  | literal c => rwa [Token.dropFlag, Allows, h.run]
  | specifier s =>
    obtain ⟨items, hs, hzone, hsep, hopen⟩ := ht
    have hknown : s.inLayout := by rw [Specifier.inLayout, hs, Option.isSome_some]
    rw [Token.dropFlag, Specifier.dropFlag, if_pos hknown]
    refine ⟨_, Specifier.items?_withPadding hs, ?_, fun hd => ?_, fun hn => ?_⟩
    · rwa [Item.zoneName_mem_map_zeroFilled_iff]
    · rw [isSeparator, h.run]
      exact hsep hd
    · rw [Item.startsWithNumber_map_zeroFilled] at hn
      exact h.openNumber (hopen hn)

theorem Eased.next (h : Eased b b') (t : Token) :
    Eased (b.next t) (b'.next (t.dropFlag Specifier.inLayout)) := by
  cases t with
  | literal c => exact ⟨congrArg (c :: ·) h.run, fun _ => rfl⟩
  | specifier s =>
    refine ⟨rfl, fun hopen => if_neg fun hends => ?_⟩
    have hlayout := Token.layoutItems_dropFlag (.specifier s)
    rw [Token.dropFlag] at hlayout
    rw [hlayout] at hends
    simp [Before.next, openNumber?, Item.endsWithOpenNumber_of_map_zeroFilled hends] at hopen

/-- **All steps.** This stays so when tokens are read without their flags. -/
theorem Eased.after (h : Eased b b') (us : List Token) :
    Eased (b.after us) (b'.after (us.map (Token.dropFlag Specifier.inLayout))) := by
  induction us generalizing b b' with
  | nil => exact h
  | cons u us ih => exact ih (h.next u)

end Before

theorem Layout.Grammatical.dropFlags {ts : List Token} (h : Grammatical ts) :
    Grammatical (ts.map (Token.dropFlag Specifier.inLayout)) := by
  rw [grammatical_iff] at *
  intro us' t' vs' hts
  obtain ⟨us, rest, rfl, rfl, hrest⟩ := List.map_eq_append_iff.1 hts
  obtain ⟨t, vs, rfl, rfl, -⟩ := List.map_eq_cons_iff.1 hrest
  have hstart : Before.Eased .start .start := ⟨rfl, id⟩
  exact (hstart.after us).allows (h us t vs rfl)

namespace Template

theorem layout_dropFlags {t : Template} {l : Layout} (h : t.layout = .ok l) :
    (t.dropFlags Specifier.inLayout).layout = .ok ⟨l.items.map Item.zeroFilled⟩ := by
  have hknown (s : Specifier) (hs : s.inLayout) : s.directive ≠ '-' :=
    ne_of_mem_of_not_mem ((Specifier.isSome_items?_iff s).1 hs) (by decide)
  rw [layout, tokens_dropFlags hknown, Layout.ofTokens?_eq_ok_iff]
  refine ⟨(grammatical_of_layout h).dropFlags, ?_⟩
  rw [items_of_layout h, List.map_flatMap, List.flatMap_map]
  exact List.flatMap_congr fun u _ => u.layoutItems_dropFlag.symm

end Template

/-! ## Patterns -/

/-- Whether the specifier stands for something that patterns know. -/
def Specifier.inPattern (s : Specifier) : Bool := s.pattern?.isSome

theorem Template.exists_pattern_dropFlags_iff (t : Template) :
    (∃ p, (t.dropFlags Specifier.inPattern).pattern = .ok p) ↔ ∃ p, t.pattern = .ok p := by
  have hknown (s : Specifier) (hs : s.inPattern) : s.directive ≠ '-' :=
    ne_of_mem_of_not_mem ((Specifier.isSome_pattern?_iff s).1 hs) (by decide)
  simp only [exists_pattern_eq_ok_iff, specifiers_dropFlags hknown, List.forall_mem_map,
    ← Option.isSome_iff_ne_none, Specifier.isSome_pattern?_iff, Specifier.directive_dropFlag]

/-! ## Texts -/

/-- Whether the specifier stands for something that texts show. -/
def Specifier.inText (s : Specifier) : Bool := s.items?.isSome || s.derived?.isSome

/-- The directives whose flag texts heed. Each of them stands for a single number. -/
def Specifier.flagDirectives : List Char := ['d', 'I', 'M', 'm', 'S'] ++ derivedDirectives

/-- Whether the specifier has a flag that has an effect on texts. -/
def Specifier.Unpadded (s : Specifier) : Prop := ¬ s.padded ∧ s.directive ∈ flagDirectives

instance (s : Specifier) : Decidable s.Unpadded := by
  unfold Specifier.Unpadded
  infer_instance

theorem Specifier.items?_of_unpadded {s : Specifier} {items : List Item} (h : s.items? = some items)
    (hs : s.Unpadded) : ∃ q, items = [.field (.number q .none)] := by
  obtain ⟨q, -, hq⟩ := forall_of_layoutSpecifiers (P := fun s items => s.Unpadded →
    ∃ q ∈ [Quantity.day, .hour12, .minute, .month, .second], items = [.field (.number q .none)])
    (by decide) h hs
  exact ⟨q, hq⟩

theorem Specifier.map_zeroFilled_of_not_unpadded {s : Specifier} {items : List Item}
    (h : s.items? = some items) (hs : ¬ s.Unpadded) : items.map Item.zeroFilled = items :=
  forall_of_layoutSpecifiers
    (P := fun s items => ¬ s.Unpadded → items.map Item.zeroFilled = items) (by decide) h hs

/-- Whether the first segment is what a flag makes of the second. -/
inductive Segment.Unpads : Segment → Segment → Prop
  | literal (c : Char) : Unpads (.literal c) (.literal c)
  | echoed (s : Specifier) : Unpads (.echoed s) (.echoed s)
  /-- There is no flag, or it has no effect. -/
  | kept {s : Specifier} (h : ¬ s.Unpadded) (text : List Char) :
    Unpads (.shown s text) (.shown s.withPadding text)
  /-- What fills the number up is left out, and the number stays. -/
  | unpadded {s : Specifier} (h : s.Unpadded) {text : List Char} {n : Int}
    (hn : Decimal.read? text = some n) (hn' : Decimal.read? (Decimal.unpadded text) = some n) :
    Unpads (.shown s (Decimal.unpadded text)) (.shown s.withPadding text)

theorem Segment.unpads_padded {s : Specifier} (h : s.Unpadded) (fill : Fill) (width : Nat) (n : Int) :
    Unpads (.shown s (Decimal.padded fill 0 n)) (.shown s.withPadding (Decimal.padded fill width n)) := by
  have hunpadded := Decimal.unpadded_padded fill width n
  rw [Decimal.padded_zero_width, ← hunpadded]
  exact .unpadded h (Decimal.read?_padded fill width n) (by rw [hunpadded, Decimal.read?_padded])

theorem Specifier.items?_withPadding_of_none {s : Specifier} (h : s.items? = none) :
    s.withPadding.items? = none := by
  rw [← Option.not_isSome_iff_eq_none, isSome_items?_iff] at *
  exact h

/-- **One specifier.** The flag leaves a segment as it is, or takes off what fills a number up. -/
theorem Specifier.unpads_segment (z : Instant) {s : Specifier} (h : s.inText) :
    ((Token.specifier s).segment z).Unpads ((Token.specifier s.withPadding).segment z) := by
  cases hs : s.items? with
  | some items =>
    have hw := items?_withPadding hs
    rw [Token.segment_specifier z hs, Token.segment_specifier z hw]
    by_cases hu : s.Unpadded
    · obtain ⟨q, rfl⟩ := items?_of_unpadded hs hu
      rw [List.map_singleton, List.flatMap_singleton, List.flatMap_singleton]
      exact Segment.unpads_padded hu .zero q.width (q.value z)
    · rw [map_zeroFilled_of_not_unpadded hs hu]
      exact .kept hu _
  | none =>
    have hw := items?_withPadding_of_none hs
    obtain ⟨d, hd⟩ : ∃ d, s.derived? = some d := by
      rw [inText, hs, Option.isSome_none, Bool.false_or] at h
      exact Option.isSome_iff_exists.1 h
    rw [Token.segment_derived z hs hd, Token.segment_derived z hw hd]
    by_cases hp : s.padded
    · have hsame : s.withPadding.padded = s.padded := hp.symm
      rw [hsame]
      exact .kept (fun hu => hu.1 hp) _
    · have hu : s.Unpadded := ⟨hp, List.mem_append_right _ (directive_mem_of_derived? hd)⟩
      rw [Derived.render, if_neg hp]
      exact Segment.unpads_padded hu d.fill d.width (d.value z)

/-- **One token.** Specifiers that stand for nothing keep their flag. -/
theorem Token.unpads_segment (z : Instant) (t : Token) :
    (t.segment z).Unpads ((t.dropFlag Specifier.inText).segment z) := by
  cases t with
  | literal c => exact .literal c
  | specifier s =>
    rw [dropFlag, Specifier.dropFlag]
    split
    · exact Specifier.unpads_segment z ‹_›
    · next h =>
      obtain ⟨hs, hd⟩ : s.items? = none ∧ s.derived? = none := by simpa [Specifier.inText] using h
      have hecho : (specifier s).segment z = .echoed s := by simp [segment, Specifier.render?, hs, hd]
      rw [hecho]
      exact .echoed s

namespace Template

theorem unpads_segments (t : Template) (z : Instant) :
    List.Forall₂ Segment.Unpads (t.segments z) ((t.dropFlags Specifier.inText).segments z) := by
  have hknown (s : Specifier) (hs : s.inText) : s.directive ≠ '-' := by
    rcases Bool.or_eq_true_iff.1 hs with hs | hs
    · exact ne_of_mem_of_not_mem ((Specifier.isSome_items?_iff s).1 hs) (by decide)
    · obtain ⟨d, hd⟩ := Option.isSome_iff_exists.1 hs
      exact ne_of_mem_of_not_mem (Specifier.directive_mem_of_derived? hd) (by decide)
  rw [segments, segments, tokens_dropFlags hknown, List.map_map, List.forall₂_map_left_iff,
    List.forall₂_map_right_iff, List.forall₂_same]
  exact fun u _ => u.unpads_segment z

/-- **Dropping flags.** Without its flags a template that has a layout still has one, where the numbers are
filled up, and it has a pattern exactly if it had one. In its text for an instant some of the numbers are
filled up, token by token, and nothing else is different. -/
theorem layout_pattern_format_dropFlags (t : Template) :
    (∀ l, t.layout = .ok l →
      (t.dropFlags Specifier.inLayout).layout = .ok ⟨l.items.map Item.zeroFilled⟩) ∧
    ((∃ p, (t.dropFlags Specifier.inPattern).pattern = .ok p) ↔ ∃ p, t.pattern = .ok p) ∧
    ∀ z, (t.format z).toList = (t.segments z).flatMap Segment.text ∧
      ((t.dropFlags Specifier.inText).format z).toList =
        ((t.dropFlags Specifier.inText).segments z).flatMap Segment.text ∧
      List.Forall₂ Segment.Unpads (t.segments z) ((t.dropFlags Specifier.inText).segments z) := by
  refine ⟨fun l => layout_dropFlags, t.exists_pattern_dropFlags_iff, fun z => ⟨?_, ?_, ?_⟩⟩
  · rw [flatMap_text_segments]
  · rw [flatMap_text_segments]
  · exact t.unpads_segments z

/-- The day and the month become fixed in width, so that a number could follow them. -/
theorem layout_pattern_format_dropFlags_day_month :
    let t : Template := ⟨"%-d/%-m"⟩
    let l : Layout := ⟨[.field (.number .day .none), .literal '/', .field (.number .month .none)]⟩
    let l' : Layout := ⟨[.field (.number .day .zeros), .literal '/', .field (.number .month .zeros)]⟩
    let z : Instant := ⟨1249625104000000000, .utc, none, by decide, by decide⟩
    t.layout = .ok l ∧ (t.dropFlags Specifier.inLayout).layout = .ok l' ∧
      (∃ p, (t.dropFlags Specifier.inPattern).pattern = .ok p) ∧
      (t.segments z).flatMap Segment.text = ['7', '/', '8'] ∧
      ((t.dropFlags Specifier.inText).segments z).flatMap Segment.text = ['0', '7', '/', '0', '8'] := by
  have hl : Template.layout ⟨"%-d/%-m"⟩ =
      .ok ⟨[.field (.number .day .none), .literal '/', .field (.number .month .none)]⟩ := rfl
  have hp : ∃ p, Template.pattern ⟨"%-d/%-m"⟩ = .ok p := (exists_pattern_eq_ok_iff _).2 (by decide)
  obtain ⟨hlayout, hpattern, htexts⟩ := layout_pattern_format_dropFlags ⟨"%-d/%-m"⟩
  obtain ⟨htext, htext', -⟩ := htexts ⟨1249625104000000000, .utc, none, by decide, by decide⟩
  refine ⟨hl, hlayout _ hl, hpattern.2 hp, htext.symm.trans ?_, htext'.symm.trans ?_⟩
  all_goals decide +kernel

/-- A template may well have a layout only without its flags. -/
example : (∃ l, Template.layout ⟨"%d%m"⟩ = .ok l) ∧ Template.layout ⟨"%-d%m"⟩ =
    .error (.unsupported ⟨'m', true⟩ .layout (.adjacentNumber ⟨'d', false⟩)) :=
  ⟨⟨_, rfl⟩, rfl⟩

end Template

end DateTemplate
