import DateTemplate.Layout.Grammar
import DateTemplate.Proofs.Field.Table
import DateTemplate.Template
import Mathlib.Data.List.Induction

/-!
# Which templates have a layout

Compiling a layout goes through the tokens and keeps in mind what stands right before the next one.
It accepts what `Layout.Grammatical` says of the whole sequence at once.

* `reservedWord?_eq_none_iff`: no reserved word is missed.
* `Before.addToken_eq_ok_iff`: one step. What stands before allows the token (`Before.Allows`), and
  the token adds its own items and nothing else.
* `Before.items?_eq_ok_iff`: all steps. Each token is allowed by what the tokens before it leave.
* `Before.items?_append`: the steps for two sequences behind each other.
* `Before.prefix_run_after_iff`, `Before.isSeparator_after_iff`,
  `Before.openNumber?_after_eq_some_iff`: what is kept in mind, said of the tokens that have been
  read.
* `Layout.ofTokens?_eq_ok_iff`: the layout of a sequence of tokens.
* `Specifier.layoutText?_eq`, `Token.layoutText_eq`: the items of specifiers and tokens, written down.
* `Template.layout_ok_iff_grammatical`: the layout of a template, and how it is written.
-/

namespace DateTemplate

/-- The ways to split a list at an element are those of its tail, and one more. -/
theorem forall_split_cons_iff {α : Type} {P : List α → α → List α → Prop} {a : α} {l : List α} :
    (∀ us b vs, a :: l = us ++ b :: vs → P us b vs) ↔
      P [] a l ∧ ∀ us b vs, l = us ++ b :: vs → P (a :: us) b vs := by
  constructor
  · intro h
    exact ⟨h [] a l rfl, fun us b vs hl => h (a :: us) b vs (by rw [hl]; rfl)⟩
  · rintro ⟨ha, hl⟩ us b vs heq
    cases us with
    | nil =>
      cases heq
      exact ha
    | cons u us =>
      cases heq
      exact hl us b vs rfl

/-! ## One step -/

/-- Looking for words only where one of a few characters comes misses none of them. -/
theorem reservedWord?_eq_none_iff (run : List Char) :
    reservedWord? run = none ↔ ∀ w ∈ reservedWords, ¬ w.toList.reverse <+: run := by
  unfold reservedWord?
  split
  · simp only [List.find?_eq_none, List.isPrefixOf_iff_prefix]
  · next hend =>
    refine iff_of_true rfl fun w hw hp => hend ?_
    have hends : ∀ w ∈ reservedWords, w.toList.reverse.head?.any reservedEndings.contains := by
      decide
    have hw := hends w hw
    obtain ⟨cs, rfl⟩ := hp
    cases hr : w.toList.reverse with
    | nil => simp [hr] at hw
    | cons c cs => rwa [hr] at hw

namespace Before

/-- Whether a token may follow. -/
def Allows (b : Before) : Token → Prop
  | .literal c => ¬ c.isDigit ∧ ∀ w ∈ reservedWords, ¬ w.toList.reverse <+: c :: b.run
  | .specifier s => ∃ items, s.items? = some items ∧ .field .zoneName ∉ items ∧
      (s.directive ∈ ['L', 'f', 'N'] → b.isSeparator) ∧
      (Item.startsWithNumber items → b.openNumber? = none)

/-- What stands before the next token when `t` has been read. -/
def next (b : Before) : Token → Before
  | .literal c => .literals (c :: b.run)
  | .specifier s => .specifier s (Token.specifier s).layoutItems

theorem addLiteral_eq_ok_iff (b : Before) (c : Char) (r : List Item × Before) :
    b.addLiteral c = .ok r ↔ b.Allows (.literal c) ∧ r = ([.literal c], .literals (c :: b.run)) := by
  simp only [addLiteral, Allows, ← reservedWord?_eq_none_iff]
  by_cases hc : c.isDigit
  · simp [hc]
  · cases hw : reservedWord? (c :: b.run) <;> simp [hc, eq_comm]

theorem refusal?_eq_none_iff (b : Before) {s : Specifier} {items : List Item}
    (h : s.items? = some items) :
    b.refusal? items = none ↔ .field .zoneName ∉ items ∧
      (s.directive ∈ ['L', 'f', 'N'] → b.isSeparator) ∧
      (Item.startsWithNumber items → b.openNumber? = none) := by
  rw [← Specifier.any_isFraction_iff h]
  unfold refusal?
  cases items.any Item.isFraction <;> cases b.isSeparator <;>
    cases Item.startsWithNumber items <;> by_cases hz : .field .zoneName ∈ items <;> simp [hz]

theorem addSpecifier_eq_ok_iff (b : Before) (s : Specifier) (r : List Item × Before) :
    b.addSpecifier s = .ok r ↔ b.Allows (.specifier s) ∧
      r = ((Token.specifier s).layoutItems, b.next (.specifier s)) := by
  simp only [addSpecifier, Allows, next, Token.layoutItems]
  cases hs : s.items? with
  | none => simp
  | some items =>
    have hiff := b.refusal?_eq_none_iff hs
    simp only [Option.some.injEq, exists_eq_left', Option.getD_some, ← hiff]
    cases b.refusal? items with
    | none => simp [eq_comm]
    | some reason => simp

/-- One step: the token is allowed, and it adds what it stands for. -/
theorem addToken_eq_ok_iff (b : Before) (t : Token) (r : List Item × Before) :
    b.addToken t = .ok r ↔ b.Allows t ∧ r = (t.layoutItems, b.next t) := by
  cases t with
  | literal c => exact b.addLiteral_eq_ok_iff c r
  | specifier s => exact b.addSpecifier_eq_ok_iff s r

/-! ## All steps -/

/-- What stands before the next token when the tokens `us` have been read. -/
def after (b : Before) (us : List Token) : Before := us.foldl next b

/-- **All steps.** Each token is allowed after the ones before it, and the items are those that the
tokens stand for. -/
theorem items?_eq_ok_iff (b : Before) (ts : List Token) (items : List Item) :
    b.items? ts = .ok items ↔ (∀ us t vs, ts = us ++ t :: vs → (b.after us).Allows t) ∧
      items = ts.flatMap Token.layoutItems := by
  induction ts generalizing b items with
  | nil => simp [Before.items?, eq_comm]
  | cons t ts ih =>
    have hcons : (∀ us u vs, t :: ts = us ++ u :: vs → (b.after us).Allows u) ↔
        b.Allows t ∧ ∀ us u vs, ts = us ++ u :: vs → ((b.next t).after us).Allows u :=
      @forall_split_cons_iff _ (fun us u _ => (b.after us).Allows u) t ts
    rw [hcons, items?]
    cases ha : b.addToken t with
    | error e =>
      have hn : ¬ b.Allows t := by
        intro hok
        have := (b.addToken_eq_ok_iff t (t.layoutItems, b.next t)).2 ⟨hok, rfl⟩
        simp [ha] at this
      simp [bind, Except.bind, hn]
    | ok r =>
      obtain ⟨hok, rfl⟩ := (b.addToken_eq_ok_iff t r).1 ha
      have ih := ih (b.next t)
      cases hr : (b.next t).items? ts with
      | error e =>
        have hn : ¬ ∀ us u vs, ts = us ++ u :: vs → ((b.next t).after us).Allows u := by
          intro hts
          have := (ih (ts.flatMap Token.layoutItems)).2 ⟨hts, rfl⟩
          simp [hr] at this
        simp [bind, Except.bind, hr, hn]
      | ok rest =>
        obtain ⟨hts, rfl⟩ := (ih rest).1 hr
        simp only [bind, Except.bind, pure, Except.pure, hr, Except.ok.injEq, List.flatMap_cons, hok,
          true_and, eq_comm]
        exact (and_iff_right hts).symm

theorem items?_cons (b : Before) (t : Token) (ts : List Token) :
    b.items? (t :: ts) = (b.addToken t).bind fun r => (r.2.items? ts).map (r.1 ++ ·) := rfl

/-- **Parts.** Tokens are judged from left to right, so a first part that is refused is refused for the
same reason whatever follows it. -/
theorem items?_append (b : Before) (us vs : List Token) : b.items? (us ++ vs) =
    (b.items? us).bind fun items => ((b.after us).items? vs).map (items ++ ·) := by
  induction us generalizing b with
  | nil =>
    rw [List.nil_append, items?, after, List.foldl_nil, Except.bind]
    cases b.items? vs <;> rfl
  | cons u us ih =>
    rw [List.cons_append, items?_cons, items?_cons]
    cases hu : b.addToken u with
    | error e => rfl
    | ok r =>
      obtain ⟨-, rfl⟩ := (b.addToken_eq_ok_iff u r).1 hu
      simp only [Except.bind, ih]
      cases (b.next u).items? us with
      | error e => rfl
      | ok items =>
        simp only [Except.map, after, List.foldl_cons]
        cases (us.foldl next (b.next u)).items? vs with
        | error e => rfl
        | ok rest => simp

/-! ## What is kept in mind -/

/-- At the start there are no tokens before the next one. -/
abbrev start : Before := .literals []

theorem after_concat (b : Before) (us : List Token) (t : Token) :
    b.after (us ++ [t]) = (b.after us).next t := by
  simp [after]

@[simp] theorem run_next_literal (b : Before) (c : Char) : (b.next (.literal c)).run = c :: b.run :=
  rfl

@[simp] theorem run_next_specifier (b : Before) (s : Specifier) :
    (b.next (.specifier s)).run = [] := rfl

/-- The literal characters that are kept in mind are those that the tokens end with. -/
theorem prefix_run_after_iff (w : List Char) (us : List Token) :
    w <+: (start.after us).run ↔ w.map .literal <+: us.reverse := by
  induction us using List.reverseRecOn generalizing w with
  | nil => simp [after, run]
  | append_singleton us t ih =>
    rw [after_concat, List.reverse_concat]
    cases w with
    | nil => simp
    | cons d w => cases t <;> simp [List.cons_prefix_cons, ih]

/-- A fraction of a second may follow if the last token is a separator. -/
theorem isSeparator_after_iff (us : List Token) :
    (start.after us).isSeparator ↔ ∃ t ∈ us.getLast?, t.IsSeparator := by
  induction us using List.reverseRecOn with
  | nil => simp [after, isSeparator, run]
  | append_singleton us t _ =>
    rw [after_concat, List.getLast?_concat]
    cases t <;> simp [next, isSeparator, run, Token.IsSeparator]

/-- A number whose width is open is kept in mind if the last token ends with it. -/
theorem openNumber?_after_eq_some_iff (us : List Token) (s : Specifier) :
    (start.after us).openNumber? = some s ↔
      us.getLast? = some (.specifier s) ∧ Item.endsWithOpenNumber (Token.specifier s).layoutItems := by
  induction us using List.reverseRecOn with
  | nil => simp [after, openNumber?]
  | append_singleton us t _ =>
    rw [after_concat, List.getLast?_concat]
    cases t with
    | literal c => simp [next, openNumber?]
    | specifier s' =>
      simp only [next, openNumber?, Option.some.injEq, Token.specifier.injEq]
      split <;> grind

end Before

/-! ## The whole sequence -/

namespace Layout

/-- A word occurs in the tokens if it is what the literal characters up to one of them end with. -/
theorem map_literal_infix_iff {w : List Char} (hw : w ≠ []) (ts : List Token) :
    w.map .literal <:+: ts ↔ ∃ us c vs, ts = us ++ .literal c :: vs ∧
      w.reverse <+: c :: (Before.start.after us).run := by
  have hrun (us : List Token) (c : Char) : w.reverse <+: c :: (Before.start.after us).run ↔
      w.map .literal <:+ us ++ [.literal c] := by
    rw [← Before.run_next_literal, ← Before.after_concat, Before.prefix_run_after_iff,
      List.map_reverse, List.reverse_prefix]
  simp only [hrun]
  constructor
  · rintro ⟨us, vs, rfl⟩
    obtain ⟨w, c, rfl⟩ := (List.eq_nil_or_concat w).resolve_left hw
    exact ⟨us ++ w.map .literal, c, vs, by simp, us, by simp⟩
  · rintro ⟨us, c, vs, rfl, xs, hxs⟩
    exact ⟨xs, vs, by rw [hxs]; simp⟩

theorem no_reservedWord_iff (ts : List Token) :
    (∀ w ∈ reservedWords, ¬ w.toList.map .literal <:+: ts) ↔
      ∀ us c vs, ts = us ++ .literal c :: vs →
        ∀ w ∈ reservedWords, ¬ w.toList.reverse <+: c :: (Before.start.after us).run := by
  have hne : ∀ w ∈ reservedWords, w.toList ≠ [] := by decide
  constructor
  · intro h us c vs hts w hw hp
    exact h w hw ((map_literal_infix_iff (hne w hw) ts).2 ⟨us, c, vs, hts, hp⟩)
  · intro h w hw hin
    obtain ⟨us, c, vs, hts, hp⟩ := (map_literal_infix_iff (hne w hw) ts).1 hin
    exact h us c vs hts w hw hp

/-- A number follows an open one exactly if two neighbours are so. -/
theorem not_adjacent_iff (ts : List Token) :
    (∀ s s' : Specifier, [.specifier s, .specifier s'] <:+: ts →
      Item.endsWithOpenNumber (Token.specifier s).layoutItems →
      ¬ Item.startsWithNumber (Token.specifier s').layoutItems) ↔
    ∀ us s' vs, ts = us ++ .specifier s' :: vs →
      Item.startsWithNumber (Token.specifier s').layoutItems →
      (Before.start.after us).openNumber? = none := by
  constructor
  · intro h us s' vs hts hn
    refine Option.eq_none_iff_forall_ne_some.2 fun s hs => ?_
    obtain ⟨hlast, hopen⟩ := (Before.openNumber?_after_eq_some_iff us s).1 hs
    obtain ⟨us, rfl⟩ := List.getLast?_eq_some_iff.1 hlast
    exact h s s' ⟨us, vs, by simp [hts]⟩ hopen hn
  · rintro h s s' ⟨us, vs, rfl⟩ hopen hn
    have hnone := h (us ++ [.specifier s]) s' vs (by simp) hn
    have hsome := (Before.openNumber?_after_eq_some_iff (us ++ [.specifier s]) s).2
      ⟨List.getLast?_concat, hopen⟩
    simp [hnone] at hsome

/-- **Grammar and steps.** A sequence of tokens is grammatical if each of its tokens is allowed after
the ones before it. -/
theorem grammatical_iff (ts : List Token) :
    Grammatical ts ↔ ∀ us t vs, ts = us ++ t :: vs → (Before.start.after us).Allows t := by
  constructor
  · rintro ⟨hdigit, hword, hread, hsep, hadj⟩ us t vs hts
    have hmem : t ∈ ts := by simp [hts]
    cases t with
    | literal c => exact ⟨hdigit c hmem, (no_reservedWord_iff ts).1 hword us c vs hts⟩
    | specifier s =>
      obtain ⟨items, hs, hz⟩ := hread s hmem
      refine ⟨items, hs, hz, ?_, ?_⟩
      · intro hd
        exact (Before.isSeparator_after_iff us).2 (hsep us s vs hts hd)
      · intro hn
        exact (not_adjacent_iff ts).1 hadj us s vs hts (by simpa [Token.layoutItems, hs] using hn)
  · intro h
    constructor
    case not_isDigit =>
      intro c hc
      obtain ⟨us, vs, hts⟩ := List.append_of_mem hc
      exact (h us _ vs hts).1
    case no_reservedWord =>
      rw [no_reservedWord_iff]
      intro us c vs hts
      exact (h us _ vs hts).2
    case readable =>
      intro s hs
      obtain ⟨us, vs, hts⟩ := List.append_of_mem hs
      obtain ⟨items, hi, hz, -⟩ := h us _ vs hts
      exact ⟨items, hi, hz⟩
    case separated =>
      intro us s vs hts hd
      obtain ⟨items, -, -, hsep, -⟩ := h us _ vs hts
      exact (Before.isSeparator_after_iff us).1 (hsep hd)
    case not_adjacent =>
      rw [not_adjacent_iff]
      intro us s vs hts hn
      obtain ⟨items, hi, -, -, hadj⟩ := h us _ vs hts
      exact hadj (by simpa [Token.layoutItems, hi] using hn)

/-- The layout of a sequence of tokens. -/
theorem ofTokens?_eq_ok_iff (ts : List Token) (l : Layout) :
    ofTokens? ts = .ok l ↔ Grammatical ts ∧ l.items = ts.flatMap Token.layoutItems := by
  have hitems := Before.items?_eq_ok_iff Before.start ts l.items
  rw [grammatical_iff, ← hitems, ofTokens?]
  cases Before.items? (.literals []) ts <;> cases l <;> simp [Except.map]

theorem ofTokens?_eq_error_iff (ts : List Token) (e : CompileError) :
    ofTokens? ts = .error e ↔ Before.start.items? ts = .error e := by
  rw [ofTokens?]
  cases Before.items? (.literals []) ts <;> simp [Except.map]

end Layout

/-! ## How a layout is written -/

/-- What a specifier stands for, written down item by item. -/
theorem Specifier.layoutText?_eq (s : Specifier) :
    s.layoutText? = s.items?.map fun items => String.ofList (items.flatMap Item.text) := by
  by_cases hd : s.directive ∈ layoutDirectives
  · have hall : ∀ s ∈ layoutSpecifiers,
        s.layoutText? = s.items?.map fun items => String.ofList (items.flatMap Item.text) := by decide
    exact hall s (mem_flatMap_flags hd)
  · have hitems : s.items? = none := Option.not_isSome_iff_eq_none.1 (mt s.isSome_items?_iff.1 hd)
    have hnone : s.layoutText? = none := by
      simp only [layoutDirectives, List.mem_cons, List.not_mem_nil, or_false, not_or] at hd
      unfold layoutText?
      simp [hd]
    rw [hitems, hnone, Option.map_none]

theorem Token.layoutText_eq (t : Token) : t.layoutText = t.layoutItems.flatMap Item.text := by
  cases t with
  | literal c => rw [layoutItems, List.flatMap_singleton, layoutText, Item.text]
  | specifier s =>
    rw [layoutText, layoutItems, Specifier.layoutText?_eq]
    cases s.items? with
    | none => rfl
    | some items => exact String.toList_ofList

namespace Template

variable {t : Template} {l : Layout}

theorem grammatical_of_layout (h : t.layout = .ok l) : Layout.Grammatical t.tokens :=
  ((Layout.ofTokens?_eq_ok_iff _ _).1 h).1

theorem items_of_layout (h : t.layout = .ok l) : l.items = t.tokens.flatMap Token.layoutItems :=
  ((Layout.ofTokens?_eq_ok_iff _ _).1 h).2

/-- **Which templates have a layout.** A template has one exactly if its tokens are grammatical, and
then the layout is what the tokens stand for, one after the other. It is written with every literal `%`
doubled and with each specifier as the table of specifiers has it. -/
theorem layout_ok_iff_grammatical (t : Template) :
    ((∃ l, t.layout = .ok l) ↔ Layout.Grammatical t.tokens) ∧
      ∀ l, t.layout = .ok l → l.items = t.tokens.flatMap Token.layoutItems ∧
        l.text = (t.tokens.flatMap fun u => u.layoutItems.flatMap Item.text) ∧
        l.text = t.tokens.flatMap Token.layoutText := by
  refine ⟨⟨?_, fun h => ⟨⟨_⟩, (Layout.ofTokens?_eq_ok_iff _ _).2 ⟨h, rfl⟩⟩⟩, fun l hl => ?_⟩
  · rintro ⟨l, hl⟩
    exact grammatical_of_layout hl
  · have htext : l.text = t.tokens.flatMap fun u => u.layoutItems.flatMap Item.text := by
      rw [Layout.text, items_of_layout hl, List.flatMap_assoc]
    have hwritten : Token.layoutText = fun u => u.layoutItems.flatMap Item.text :=
      funext Token.layoutText_eq
    exact ⟨items_of_layout hl, htext, by rw [htext, hwritten]⟩

end Template

end DateTemplate
