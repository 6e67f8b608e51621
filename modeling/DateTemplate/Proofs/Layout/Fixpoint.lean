import DateTemplate.Proofs.Layout.InStep
import DateTemplate.Proofs.Token.Canonical
import Mathlib.Data.List.Chain

/-!
# Layouts as templates

The text of a layout is a template again. Every item is read as one token, a literal `%` as an escape
for it, and the literal characters that specifiers stand for take their place between the others.

* `Item.token`, `Item.ReadsBack`: the token of an item, and whether the text of the item is read as that
  token and nothing else. The items of a layout are such, except for fractions of a second.
* `Token.scan_flatMap_text`: the tokens of the text of such items.
* `Layout.Grammatical.tokens`: what is said of the tokens of a template holds of those of its items.
* `Template.layout_template`: a layout without fractions has itself as its layout, and as a template it
  gives the same texts and reads the same as the template it comes from.
-/

namespace DateTemplate

/-! ## The token of an item -/

/-- The specifier that stands for the field and for nothing else. -/
def Field.specifier : Field → Specifier
  | number .day .spaces => ⟨'e', true⟩
  | number q p => ⟨q.letter, p ≠ .none⟩
  | fraction .milliseconds => ⟨'L', true⟩
  | fraction .microseconds => ⟨'f', true⟩
  | fraction .nanoseconds => ⟨'N', true⟩
  | weekday .full => ⟨'A', true⟩
  | weekday .short => ⟨'a', true⟩
  | month .full => ⟨'B', true⟩
  | month .short => ⟨'b', true⟩
  | meridiem .upper => ⟨'p', true⟩
  | meridiem .lower => ⟨'P', true⟩
  | offset => ⟨'z', true⟩
  | zoneName => ⟨'Z', true⟩

namespace Item

/-- The token that stands for the item and for nothing else. -/
def token : Item → Token
  | literal c => if c = '%' then .specifier ⟨'%', true⟩ else .literal c
  | field f => .specifier f.specifier

/-- Whether the text of the item is read as its token. -/
def ReadsBack (i : Item) : Prop :=
  i.token.Closed ∧ i.token.text = i.text ∧ i.token.layoutItems = [i]

instance (i : Item) : Decidable i.ReadsBack := inferInstanceAs (Decidable (_ = _ ∧ _ = _ ∧ _ = _))

theorem readsBack_literal (c : Char) : (literal c).ReadsBack := by
  by_cases hc : c = '%'
  · subst hc
    decide
  · simp [ReadsBack, token, hc, Token.closed_literal_iff, Token.text, text, Token.layoutItems]

end Item

namespace Specifier

variable {s : Specifier} {items : List Item}

theorem readsBack_of_mem (h : s.items? = some items) (hf : s.directive ∉ ['L', 'f', 'N']) :
    ∀ i ∈ items, i.ReadsBack :=
  forall_of_layoutSpecifiers
    (P := fun s items => s.directive ∉ ['L', 'f', 'N'] → ∀ i ∈ items, i.ReadsBack) (by decide) h hf

end Specifier

/-! ## The tokens of items -/

theorem Token.scan_flatMap_text {items : List Item} (h : ∀ i ∈ items, i.ReadsBack) :
    scan (items.flatMap Item.text) = items.map Item.token := by
  have htexts : items.flatMap Item.text = (items.map Item.token).flatMap text := by
    rw [List.flatMap_map]
    exact List.flatMap_congr fun i hi => (h i hi).2.1.symm
  have hcanonical : Canonical (items.map Item.token) := by
    refine canonical_of_forall_closed fun t ht => ?_
    obtain ⟨i, hi, rfl⟩ := List.mem_map.1 ht
    exact (h i hi).1
  rw [htexts, scan_flatMap_text_of_canonical hcanonical]

theorem Item.token_eq_literal_iff {i : Item} {c : Char} :
    i.token = .literal c ↔ i = literal c ∧ c ≠ '%' := by
  cases i with
  | literal d =>
    by_cases hd : d = '%'
    · subst hd
      simp [token, eq_comm]
    · simp only [token, hd, if_false, Token.literal.injEq, literal.injEq]
      constructor
      · rintro rfl
        exact ⟨rfl, hd⟩
      · exact And.left
  | field f => simp [token]

theorem Item.items?_of_token_eq {i : Item} (hi : i.ReadsBack) {s : Specifier}
    (h : i.token = .specifier s) : s.items? = some [i] := by
  obtain ⟨-, -, hitems⟩ := hi
  rw [h, Token.layoutItems] at hitems
  cases hs : s.items? with
  | none => simp [hs] at hitems
  | some items => rw [← hitems, hs, Option.getD_some]

theorem Item.render_token {i : Item} (hi : i.ReadsBack) (z : Instant) :
    i.token.render z = i.render z := by
  cases htoken : i.token with
  | literal c =>
    obtain ⟨rfl, -⟩ := token_eq_literal_iff.1 htoken
    rfl
  | specifier s =>
    rw [Token.render_specifier z (items?_of_token_eq hi htoken), List.flatMap_singleton]

/-- A literal character among what a token stands for is the token itself or a separator. -/
theorem Token.eq_literal_of_mem {t : Token} {c : Char}
    (h : literal c ∈ t.layoutItems.map Item.token) : t = literal c ∨ ¬ c.isAlphanum := by
  obtain ⟨i, hi, htoken⟩ := List.mem_map.1 h
  obtain ⟨rfl, -⟩ := Item.token_eq_literal_iff.1 htoken
  cases t with
  | literal d => exact .inl (by simpa [layoutItems, eq_comm] using hi)
  | specifier s =>
    cases hs : s.items? with
    | none => simp [layoutItems, hs] at hi
    | some items =>
      exact .inr (Specifier.not_isAlphanum_of_literal_mem hs (by simpa [layoutItems, hs] using hi))

/-! ## Grammar -/

section

variable {α : Type} {l : List α} {g : α → List α}

/-- Where an element is replaced, no run of elements begins that are not among the new ones. -/
theorem prefix_of_prefix_flatMap {w : List α}
    (h : ∀ a ∈ l, g a = [a] ∨ g a ≠ [] ∧ ∀ b ∈ w, b ∉ g a) (hw : w <+: l.flatMap g) : w <+: l := by
  induction l generalizing w with
  | nil => simpa using hw
  | cons a l ih =>
    cases w with
    | nil => exact List.nil_prefix
    | cons b w =>
      rw [List.flatMap_cons] at hw
      rcases h a List.mem_cons_self with ha | ⟨hne, hb⟩
      · rw [ha, List.singleton_append, List.cons_prefix_cons] at hw
        obtain ⟨rfl, hw⟩ := hw
        refine List.cons_prefix_cons.2 ⟨rfl, ih (fun a' ha' => ?_) hw⟩
        refine (h a' (List.mem_cons_of_mem b ha')).imp_right fun ⟨hne, hb⟩ => ⟨hne, ?_⟩
        exact fun b' hb' => hb b' (List.mem_cons_of_mem b hb')
      · obtain ⟨c, cs, hc⟩ := List.exists_cons_of_ne_nil hne
        rw [hc, List.cons_append, List.cons_prefix_cons] at hw
        exact absurd (by simp [hc, hw.1]) (hb b List.mem_cons_self)

theorem infix_of_infix_append {w us vs : List α} (hne : w ≠ []) (h : ∀ b ∈ w, b ∉ us)
    (hw : w <:+: us ++ vs) : w <:+: vs := by
  induction us with
  | nil => exact hw
  | cons a us ih =>
    rw [List.cons_append, List.infix_cons_iff] at hw
    refine ih (fun b hb hus => h b hb (List.mem_cons_of_mem a hus)) (hw.resolve_left fun hp => ?_)
    obtain ⟨b, w, rfl⟩ := List.exists_cons_of_ne_nil hne
    obtain ⟨rfl, -⟩ := List.cons_prefix_cons.1 hp
    exact h b List.mem_cons_self List.mem_cons_self

/-- A run of elements that none of the new ones is among has been there before. -/
theorem infix_of_infix_flatMap {w : List α} (hne : w ≠ [])
    (h : ∀ a ∈ l, g a = [a] ∨ g a ≠ [] ∧ ∀ b ∈ w, b ∉ g a) (hw : w <:+: l.flatMap g) : w <:+: l := by
  induction l with
  | nil => simpa using hw
  | cons a l ih =>
    have hl := fun a' ha' => h a' (List.mem_cons_of_mem a ha')
    rw [List.flatMap_cons] at hw
    rcases h a List.mem_cons_self with ha | ⟨-, hb⟩
    · rw [ha, List.singleton_append, List.infix_cons_iff] at hw
      rcases hw with hw | hw
      · refine List.IsPrefix.isInfix (prefix_of_prefix_flatMap h ?_)
        rwa [List.flatMap_cons, ha]
      · exact List.infix_cons (ih hl hw)
    · exact List.infix_cons (ih hl (infix_of_infix_append hne hb hw))

end

namespace Layout.Grammatical

variable {ts : List Token}

theorem layoutItems_ne_nil (hg : Grammatical ts) {t : Token} (ht : t ∈ ts) : t.layoutItems ≠ [] := by
  cases t with
  | literal c => simp [Token.layoutItems]
  | specifier s =>
    obtain ⟨items, hs, -⟩ := hg.readable s ht
    simpa [Token.layoutItems, hs] using Specifier.items_ne_nil hs

theorem zoneName_notMem (hg : Grammatical ts) : .field .zoneName ∉ ts.flatMap Token.layoutItems := by
  rw [List.mem_flatMap]
  rintro ⟨t, ht, hz⟩
  cases t with
  | literal c => simp [Token.layoutItems] at hz
  | specifier s =>
    obtain ⟨items, hs, hn⟩ := hg.readable s ht
    simp only [Token.layoutItems, hs, Option.getD_some] at hz
    exact hn hz

/-- No number follows a number whose width is open, inside of a specifier as well as between two. -/
theorem isChain_layoutItems (hg : Grammatical ts) : (ts.flatMap Token.layoutItems).IsChain fun i j =>
    Item.endsWithOpenNumber [i] → ¬ Item.startsWithNumber [j] := by
  have hne : [] ∉ ts.map Token.layoutItems := by
    rw [List.mem_map]
    rintro ⟨t, ht, hnil⟩
    exact hg.layoutItems_ne_nil ht hnil
  rw [List.flatMap_def, List.isChain_flatten hne, List.isChain_map,
    List.isChain_iff_forall_rel_of_append_cons_cons]
  constructor
  · intro items hitems
    obtain ⟨t, -, rfl⟩ := List.mem_map.1 hitems
    refine t.isChain_parted.imp fun i j hij hopen => ?_
    cases i with
    | literal c => simp [Item.endsWithOpenNumber, Item.field?] at hopen
    | field f =>
      cases j with
      | literal c => simp [Item.startsWithNumber, Item.field?]
      | field g => simp [Item.parted] at hij
  · intro t u us vs hts i hi j hj hopen hstart
    have hopen : Item.endsWithOpenNumber t.layoutItems := by
      rw [Item.endsWithOpenNumber, Option.mem_def.1 hi]
      exact hopen
    have hstart : Item.startsWithNumber u.layoutItems := by
      rw [Item.startsWithNumber, Option.mem_def.1 hj]
      exact hstart
    cases t with
    | literal c => simp [Token.layoutItems, Item.endsWithOpenNumber, Item.field?] at hopen
    | specifier s =>
      cases u with
      | literal c => simp [Token.layoutItems, Item.startsWithNumber, Item.field?] at hstart
      | specifier s' => exact hg.not_adjacent s s' ⟨us, vs, by simp [hts]⟩ hopen hstart

variable (hf : ∀ s, .specifier s ∈ ts → s.directive ∉ ['L', 'f', 'N'])

include hf

theorem readsBack (hg : Grammatical ts) : ∀ i ∈ ts.flatMap Token.layoutItems, i.ReadsBack := by
  intro i hi
  obtain ⟨t, ht, hi⟩ := List.mem_flatMap.1 hi
  cases t with
  | literal c =>
    obtain rfl : i = .literal c := by simpa [Token.layoutItems] using hi
    exact Item.readsBack_literal c
  | specifier s =>
    obtain ⟨items, hs, -⟩ := hg.readable s ht
    exact Specifier.readsBack_of_mem hs (hf s ht) i (by simpa [Token.layoutItems, hs] using hi)

theorem not_isFraction (hg : Grammatical ts) : ∀ i ∈ ts.flatMap Token.layoutItems, ¬ i.isFraction := by
  intro i hi hfrac
  obtain ⟨t, ht, hi⟩ := List.mem_flatMap.1 hi
  cases t with
  | literal c =>
    obtain rfl : i = .literal c := by simpa [Token.layoutItems] using hi
    simp [Item.isFraction] at hfrac
  | specifier s =>
    obtain ⟨items, hs, -⟩ := hg.readable s ht
    have hany := (Specifier.any_isFraction_iff hs).not.2 (hf s ht)
    exact hany (List.any_eq_true.2 ⟨i, by simpa [Token.layoutItems, hs] using hi, hfrac⟩)

/-- Grammatical tokens stay so when each of them is replaced by the tokens of its items. -/
theorem tokens (hg : Grammatical ts) :
    Grammatical ((ts.flatMap Token.layoutItems).map Item.token) := by
  have hreads := hg.readsBack hf
  have hspec {s : Specifier} (hs : .specifier s ∈ (ts.flatMap Token.layoutItems).map Item.token) :
      ∃ i ∈ ts.flatMap Token.layoutItems, s.items? = some [i] := by
    obtain ⟨i, hi, htoken⟩ := List.mem_map.1 hs
    exact ⟨i, hi, Item.items?_of_token_eq (hreads i hi) htoken⟩
  constructor
  case not_isDigit =>
    intro c hc hdigit
    rw [List.map_flatMap] at hc
    obtain ⟨t, ht, hc⟩ := List.mem_flatMap.1 hc
    rcases Token.eq_literal_of_mem hc with rfl | hn
    · exact hg.not_isDigit c ht hdigit
    · exact hn (by simp [Char.isAlphanum, hdigit])
  case no_reservedWord =>
    intro w hw hin
    have hletters : ∀ w ∈ reservedWords, w.toList ≠ [] ∧ w.toList.all Char.isAlphanum := by decide
    obtain ⟨hne, halnum⟩ := hletters w hw
    rw [List.all_eq_true] at halnum
    rw [List.map_flatMap] at hin
    refine hg.no_reservedWord w hw (infix_of_infix_flatMap (by simpa using hne) (fun t ht => ?_) hin)
    by_cases hkept : t.layoutItems.map Item.token = [t]
    · exact .inl hkept
    · refine .inr ⟨by simpa using hg.layoutItems_ne_nil ht, fun b hb hbt => ?_⟩
      obtain ⟨c, hc, rfl⟩ := List.mem_map.1 hb
      obtain rfl : t = .literal c := (Token.eq_literal_of_mem hbt).resolve_right (by simp [halnum c hc])
      have hpercent : c ≠ '%' := by
        rintro rfl
        exact absurd (halnum _ hc) (by decide)
      exact hkept (by simp [Token.layoutItems, Item.token, hpercent])
  case readable =>
    intro s hs
    obtain ⟨i, hi, hitems⟩ := hspec hs
    refine ⟨[i], hitems, fun hz => hg.zoneName_notMem ?_⟩
    rwa [List.mem_singleton.1 hz]
  case separated =>
    intro us s vs hts hd
    obtain ⟨i, hi, hitems⟩ := hspec (s := s) (by simp [hts])
    have hany := (Specifier.any_isFraction_iff hitems).2 hd
    exact absurd (by simpa using hany) (hg.not_isFraction hf i hi)
  case not_adjacent =>
    intro s s' hin hopen hstart
    obtain ⟨is, his, hmap⟩ := List.infix_map_iff.1 hin
    obtain ⟨i, j, rfl⟩ := List.length_eq_two.1 (by simpa using (congrArg List.length hmap).symm)
    obtain ⟨hi, hj⟩ : .specifier s = i.token ∧ .specifier s' = j.token := by simpa using hmap
    rw [hi, (hreads i (his.subset (by simp))).2.2] at hopen
    rw [hj, (hreads j (his.subset (by simp))).2.2] at hstart
    have hpair := List.IsChain.infix hg.isChain_layoutItems his
    exact List.isChain_pair.1 hpair hopen hstart

end Layout.Grammatical

/-! ## The template of a layout -/

/-- The text of a layout as a template. -/
def Layout.template (l : Layout) : Template := ⟨toString l⟩

namespace Template

variable {t : Template} {l : Layout}

/-- **Layouts as templates.** If a template without fractions of a second has a layout, then the layout
as a template has itself as its layout, gives the same text for every instant and reads the same of
every input. -/
theorem layout_template (hl : t.layout = .ok l) (hf : ∀ s ∈ t.specifiers, s.directive ∉ ['L', 'f', 'N']) :
    l.template.layout = .ok l ∧ (∀ z, l.template.format z = t.format z) ∧
      ∀ input, l.template.read input = t.read input := by
  have hg := grammatical_of_layout hl
  have hitems := items_of_layout hl
  simp only [mem_specifiers] at hf
  have hreads := hg.readsBack hf
  have htokens : l.template.tokens = (t.tokens.flatMap Token.layoutItems).map Item.token := by
    rw [← Token.scan_flatMap_text hreads, ← hitems]
    simp [Layout.template, tokens, toString, Layout.text]
  have hlayout : l.template.layout = .ok l := by
    refine (Layout.ofTokens?_eq_ok_iff _ _).2 ?_
    rw [htokens, hitems, List.flatMap_map]
    refine ⟨hg.tokens hf, ?_⟩
    rw [List.flatMap_congr fun i hi => (hreads i hi).2.2, List.flatMap_singleton']
  refine ⟨hlayout, fun z => ?_, fun input => ?_⟩
  · refine String.toList_inj.1 ?_
    rw [toList_format, toList_format, htokens, List.flatMap_map,
      List.flatMap_congr fun i hi => Item.render_token (hreads i hi) z, List.flatMap_assoc]
    exact (List.flatMap_congr fun u hu => Token.render_eq_of_ne_nil z (hg.layoutItems_ne_nil hu)).symm
  · simp only [read, hlayout, hl]

/-- A layout of composites, ignored flags, blanks, escaped and cut off escapes. -/
theorem layout_template_cut_off :
    let t : Template := ⟨"%-H%n%c, %D%%%t%-e%-"⟩
    (∀ s ∈ t.specifiers, s.directive ∉ ['L', 'f', 'N']) ∧
      ∃ l, t.layout = .ok l ∧ l.text = "%H\n%a %b %e %H:%M:%S %Y, %m/%d/%y%%\t%e%%-".toList ∧
        l.template.layout = .ok l ∧ (∀ z, l.template.format z = t.format z) ∧
        ∀ input, l.template.read input = t.read input := by
  have hf : ∀ s ∈ Template.specifiers ⟨"%-H%n%c, %D%%%t%-e%-"⟩, s.directive ∉ ['L', 'f', 'N'] := by
    decide
  obtain ⟨l, hl, htext⟩ : ∃ l, Template.layout ⟨"%-H%n%c, %D%%%t%-e%-"⟩ = .ok l ∧
      l.text = "%H\n%a %b %e %H:%M:%S %Y, %m/%d/%y%%\t%e%%-".toList := ⟨_, rfl, by decide⟩
  exact ⟨hf, l, hl, htext, layout_template hl hf⟩

end Template

end DateTemplate
