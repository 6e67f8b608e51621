import DateTemplate.Proofs.Layout.Fixpoint
import DateTemplate.Proofs.Pattern.Quoting

/-!
# Specifiers as abbreviations

A specifier for several fields is as good as the template text that it abbreviates: in a text, in a
layout and in a pattern, whatever stands around it.

* `Template.tokens_expand`: the tokens of a template that is written out.
* `Template.format_expand`: it has the same texts.
* `Before.items?_of_unfolds`, `Before.sameOutcome_items?`: it has the same layout or is refused for the
  same kind of reason. One specifier is refused where the first one that it is written out as is refused,
  and leaves the same behind.
* `Pattern.writer?`, `Pattern.writer?_flatMap_expansion`: it adds the same to a pattern, whether or not a
  quote is open.
* `Template.format_layout_pattern_expand`: all three for a template.
-/

namespace DateTemplate

/-! ## What is written out -/

namespace Specifier

/-- The directives that stand for several fields. -/
def compositeDirectives : List Char := ['c', 'D', 'x', 'F', 'R', 'r', 'T', 'X', 'v', '+']

/-- Each of these directives with and without the flag. -/
def compositeSpecifiers : List Specifier :=
  compositeDirectives.flatMap fun d => [⟨d, true⟩, ⟨d, false⟩]

theorem mem_compositeSpecifiers {day : String} {s : Specifier} {text : String}
    (h : s.expansion? day = some text) : s ∈ compositeSpecifiers := by
  refine mem_flatMap_flags (Decidable.byContradiction fun hd => ?_)
  simp only [compositeDirectives, List.mem_cons, List.not_mem_nil, or_false, not_or] at hd
  unfold expansion? at h
  simp [hd] at h

/-- What holds of these specifiers holds of every specifier that stands for several fields. -/
theorem forall_of_compositeSpecifiers {day : String} {P : Specifier → String → Prop}
    (h : ∀ s ∈ compositeSpecifiers, ∀ text ∈ s.expansion? day, P s text)
    {s : Specifier} {text : String} (hs : s.expansion? day = some text) : P s text :=
  h s (mem_compositeSpecifiers hs) text hs

/-- The tokens that a specifier for several fields is written out as, and any other specifier as it
is. -/
def expansion (day : String) (s : Specifier) : List Token :=
  match s.expansion? day with
  | some text => Token.scan text.toList
  | none => [.specifier s]

end Specifier

/-- What a specifier is written out as does not end within an escape. -/
theorem Specifier.after_expansion? {day : String} (hday : day ∈ ["%e", "%-d"]) {s : Specifier}
    {text : String} (h : s.expansion? day = some text) :
    Escape.closed.after text.toList = .closed := by
  have hall : ∀ day ∈ ["%e", "%-d"], ∀ s ∈ compositeSpecifiers, ∀ text ∈ s.expansion? day,
      Escape.closed.after text.toList = .closed := by decide
  exact forall_of_compositeSpecifiers (P := fun _ text => Escape.closed.after text.toList = .closed)
    (hall day hday) h

/-- The tokens of a template that is written out. -/
theorem Template.tokens_expand {day : String} (hday : day ∈ ["%e", "%-d"]) (t : Template) :
    (t.expand day).tokens = t.tokens.flatMap (Token.replace (Specifier.expansion day)) := by
  have hclosed : ∀ s ∈ t.specifiers, (Token.specifier s).Closed := by
    intro s hs
    exact Token.closed_of_mem_scan (mem_specifiers.1 hs)
  rw [expand, tokens_mapSpecifiers]
  · refine List.flatMap_congr fun u hu => ?_
    cases u with
    | literal c => rfl
    | specifier s =>
      simp only [Token.replace_specifier, Specifier.expansion]
      cases hs : s.expansion? day with
      | none => exact Token.scan_text (hclosed s (mem_specifiers.2 hu))
      | some text => rfl
  · intro s hs
    cases hexp : s.expansion? day with
    | none => exact hclosed s hs
    | some text => exact Specifier.after_expansion? hday hexp

example : (Template.expand "%-d" ⟨"%-v%%%c%"⟩).text = "%-d-%b-%Y%%%a %b %-d %H:%M:%S %Y%" := by
  decide

/-! ## Texts -/

/-- A specifier for several fields has the items of the tokens that it is written out as. -/
theorem Specifier.flatMap_layoutItems_scan {s : Specifier} {text : String}
    (h : s.expansion? "%e" = some text) :
    (Token.scan text.toList).flatMap Token.layoutItems = (Token.specifier s).layoutItems ∧
      ∀ u ∈ .specifier s :: Token.scan text.toList, u.layoutItems ≠ [] :=
  forall_of_compositeSpecifiers (P := fun s text =>
    (Token.scan text.toList).flatMap Token.layoutItems = (Token.specifier s).layoutItems ∧
      ∀ u ∈ .specifier s :: Token.scan text.toList, u.layoutItems ≠ []) (by decide) h

theorem Template.format_expand (t : Template) (z : Instant) :
    (t.expand "%e").format z = t.format z := by
  refine String.toList_inj.1 ?_
  rw [toList_format, toList_format, tokens_expand (by simp), List.flatMap_assoc]
  refine List.flatMap_congr fun u _ => ?_
  cases u with
  | literal c => simp
  | specifier s =>
    rw [Token.replace_specifier, Specifier.expansion]
    cases hs : s.expansion? "%e" with
    | none => simp
    | some text =>
      obtain ⟨hitems, hne⟩ := Specifier.flatMap_layoutItems_scan hs
      rw [Token.render_eq_of_ne_nil z (hne _ List.mem_cons_self), ← hitems, List.flatMap_assoc]
      refine List.flatMap_congr fun u hu => ?_
      exact Token.render_eq_of_ne_nil z (hne u (List.mem_cons_of_mem _ hu))

/-! ## Layouts -/

namespace CompileError

/-- Whether two errors are of the same kind. -/
def SameKind : CompileError → CompileError → Prop
  | unsupported .., unsupported .. | ambiguous _, ambiguous _ => True
  | _, _ => False

theorem SameKind.refl (e : CompileError) : e.SameKind e := by
  cases e <;> trivial

/-- Whether two attempts have the same result or fail with errors of the same kind. -/
inductive SameOutcome {α : Type} : Except CompileError α → Except CompileError α → Prop
  | ok (a : α) : SameOutcome (.ok a) (.ok a)
  | error {e e' : CompileError} (h : e.SameKind e') : SameOutcome (.error e) (.error e')

theorem SameOutcome.map {α β : Type} {x y : Except CompileError α} (h : SameOutcome x y) (f : α → β) :
    SameOutcome (x.map f) (y.map f) := by
  cases h with
  | ok a => exact .ok (f a)
  | error h => exact .error h

end CompileError

namespace Before

open CompileError

theorem items?_specifier_cons (b : Before) {s : Specifier} {items : List Item}
    (h : s.items? = some items) (ts : List Token) :
    b.items? (.specifier s :: ts) = match b.refusal? items with
      | some reason => .error (.unsupported s .layout reason)
      | none => ((Before.specifier s items).items? ts).map (items ++ ·) := by
  simp only [items?_cons, addToken, addSpecifier, h]
  cases b.refusal? items <;> rfl

/-- What may follow depends on the literal characters before it and on an open number only. -/
theorem items?_congr {b b' : Before} (hrun : b.run = b'.run) (hopen : b.openNumber? = b'.openNumber?)
    (ts : List Token) : b.items? ts = b'.items? ts := by
  cases ts with
  | nil => rfl
  | cons t ts =>
    have hrefusal (items : List Item) : b.refusal? items = b'.refusal? items := by
      rw [refusal?, refusal?, isSeparator, isSeparator, hrun, hopen]
    have ht : b.addToken t = b'.addToken t := by
      cases t with
      | literal c => simp only [addToken, addLiteral, hrun]
      | specifier s => simp only [addToken, addSpecifier, hrefusal]
    rw [items?_cons, items?_cons, ht]

end Before

/-- What a specifier for several fields is written out as: it begins as the specifier does, leaves no
open number behind, and has the same items, unless one of them is a time zone's name. -/
def Specifier.Unfolds (s : Specifier) (us : List Token) : Prop :=
  ∃ items ∈ s.items?, ∃ s₁ ∈ us.head?.bind Token.specifier?, ∃ items₁ ∈ s₁.items?,
    (¬ items.any Item.isFraction ∧ ¬ items₁.any Item.isFraction ∧ .field .zoneName ∉ items₁ ∧
      Item.startsWithNumber items = Item.startsWithNumber items₁) ∧
    (¬ Item.endsWithOpenNumber items ∧ ((Before.specifier s₁ items₁).after us.tail).run = [] ∧
      ((Before.specifier s₁ items₁).after us.tail).openNumber? = none) ∧
    ((Before.specifier s₁ items₁).items? us.tail).map (items₁ ++ ·) =
      if .field .zoneName ∈ items then .error (.unsupported ⟨'Z', true⟩ .layout .formatOnly)
      else .ok items

instance decEqExcept {ε α : Type} [DecidableEq ε] [DecidableEq α] : DecidableEq (Except ε α)
  | .error e, .error e' => decidable_of_iff (e = e') (by simp)
  | .ok a, .ok a' => decidable_of_iff (a = a') (by simp)
  | .error _, .ok _ => isFalse nofun
  | .ok _, .error _ => isFalse nofun

instance (s : Specifier) (us : List Token) : Decidable (s.Unfolds us) := by
  unfold Specifier.Unfolds
  infer_instance

theorem Specifier.unfolds {s : Specifier} {text : String} (h : s.expansion? "%e" = some text) :
    s.Unfolds (Token.scan text.toList) :=
  forall_of_compositeSpecifiers (P := fun s text => s.Unfolds (Token.scan text.toList)) (by decide) h

namespace Before

open CompileError

/-- **One specifier.** A specifier for several fields is refused where what it is written out as is
refused. Otherwise both have the same items and allow the same behind them. -/
theorem items?_of_unfolds {s : Specifier} {us : List Token} (h : s.Unfolds us) (b : Before) :
    (∃ reason s' reason', b.items? us = .error (.unsupported s' .layout reason') ∧
      ∀ ts, b.items? (.specifier s :: ts) = .error (.unsupported s .layout reason)) ∨
    ∃ items, b.items? us = .ok items ∧ ∀ ts,
      b.items? (.specifier s :: ts) = ((b.after us).items? ts).map (items ++ ·) := by
  obtain ⟨items, hs, s₁, hs₁, items₁, hitems₁, ⟨hfrac, hfrac₁, hzone₁, hstart⟩,
    ⟨hend, hrun, hopen⟩, htail⟩ := h
  obtain ⟨us, rfl⟩ : ∃ us', us = .specifier s₁ :: us' := by
    cases us with
    | nil => cases hs₁
    | cons u us =>
      cases u with
      | literal c => cases hs₁
      | specifier s => cases hs₁; exact ⟨us, rfl⟩
  rw [List.tail_cons] at hrun hopen htail
  have hrefusal : b.refusal? items =
      if .field .zoneName ∈ items then some .formatOnly else b.refusal? items₁ := by
    simp [refusal?, hfrac, hfrac₁, hzone₁, hstart]
  have hafter : b.after (.specifier s₁ :: us) = (Before.specifier s₁ items₁).after us := by
    simp [after, next, Token.layoutItems, Option.mem_def.1 hitems₁]
  have hempty : (Before.specifier s items).openNumber? = none := if_neg hend
  have hleft (ts : List Token) :
      (Before.specifier s items).items? ts = ((Before.specifier s₁ items₁).after us).items? ts :=
    items?_congr (b := .specifier s items) hrun.symm (hempty.trans hopen.symm) ts
  simp only [items?_specifier_cons b hs, items?_specifier_cons b hitems₁, hrefusal, hafter, hleft,
    htail]
  by_cases hzone : .field .zoneName ∈ items
  · -- The name of the time zone is refused, if not the first specifier before it.
    simp only [if_pos hzone]
    refine .inl ⟨.formatOnly, ?_⟩
    cases b.refusal? items₁ with
    | some reason => exact ⟨s₁, reason, rfl, fun _ => rfl⟩
    | none => exact ⟨⟨'Z', true⟩, .formatOnly, rfl, fun _ => rfl⟩
  · simp only [if_neg hzone]
    cases b.refusal? items₁ with
    | some reason => exact .inl ⟨reason, s₁, reason, rfl, fun _ => rfl⟩
    | none => exact .inr ⟨items, rfl, fun _ => rfl⟩

theorem sameOutcome_cons {ts us : List Token} (h : ∀ b : Before, SameOutcome (b.items? ts) (b.items? us))
    (b : Before) (t : Token) : SameOutcome (b.items? (t :: ts)) (b.items? (t :: us)) := by
  rw [items?_cons, items?_cons]
  cases b.addToken t with
  | error e => exact .error (.refl e)
  | ok r => exact (h r.2).map (r.1 ++ ·)

/-- **All specifiers.** Whatever stands before them, tokens have the items of what they are written out
as, or both are refused for a reason of the same kind. -/
theorem sameOutcome_items? (b : Before) (ts : List Token) :
    SameOutcome (b.items? ts) (b.items? (ts.flatMap (Token.replace (Specifier.expansion "%e")))) := by
  induction ts generalizing b with
  | nil => exact .ok []
  | cons t ts ih =>
    rw [List.flatMap_cons]
    cases t with
    | literal c => exact sameOutcome_cons ih b (.literal c)
    | specifier s =>
      rw [Token.replace_specifier, Specifier.expansion]
      cases hs : s.expansion? "%e" with
      | none => exact sameOutcome_cons ih b (.specifier s)
      | some text =>
        rw [items?_append]
        rcases items?_of_unfolds (Specifier.unfolds hs) b with
          ⟨reason, s', reason', hus, hts⟩ | ⟨items, hus, hts⟩
        · rw [hus, hts]
          exact .error trivial
        · rw [hus, hts]
          exact (ih _).map (items ++ ·)

end Before

theorem Template.sameOutcome_layout_expand (t : Template) :
    CompileError.SameOutcome t.layout (t.expand "%e").layout := by
  rw [layout, layout, tokens_expand (by simp)]
  exact (Before.sameOutcome_items? _ t.tokens).map Layout.mk

/-! ## Patterns -/

namespace Pattern

/-- What a piece adds to a pattern, and whether a quote is open then. -/
def Piece.add (quoted : Bool) : Piece → List Char × Bool
  | fields text => (closing quoted ++ text, false)
  | literal c =>
    if c = '\'' then (['\'', '\''], quoted)
    else if c.isAlpha && !quoted then (['\'', c], true)
    else ([c], quoted)

theorem write_cons (quoted : Bool) (p : Piece) (ps : List Piece) :
    write quoted (p :: ps) = (p.add quoted).1 ++ write (p.add quoted).2 ps := by
  cases p with
  | fields text => rfl
  | literal c =>
    rw [write, Piece.add]
    split_ifs <;> rfl

/-- What pieces add to a pattern, and whether a quote is open then. -/
def Piece.addAll (quoted : Bool) : List Piece → List Char × Bool
  | [] => ([], quoted)
  | p :: ps =>
    let r := addAll (p.add quoted).2 ps
    ((p.add quoted).1 ++ r.1, r.2)

theorem write_append (quoted : Bool) (ps qs : List Piece) :
    write quoted (ps ++ qs) = (Piece.addAll quoted ps).1 ++ write (Piece.addAll quoted ps).2 qs := by
  induction ps generalizing quoted with
  | nil => rfl
  | cons p ps ih => rw [List.cons_append, write_cons, ih, Piece.addAll, List.append_assoc]

end Pattern

open Pattern

theorem eq_ok_of_mem_toOption {ε α : Type} {x : Except ε α} {a : α} (h : a ∈ x.toOption) :
    x = .ok a := by
  cases x with
  | error e => cases h
  | ok a' =>
    cases h
    rfl

/-- **One specifier.** Inside a quote and outside, what a specifier for several fields is written out as
adds the pattern of the specifier, and leaves no quote open. -/
theorem Specifier.addAll_scan {s : Specifier} {text : String} (h : s.expansion? "%-d" = some text) :
    ∃ ps p, (Token.scan text.toList).mapM Piece.ofToken? = .ok ps ∧
      Piece.ofToken? (.specifier s) = .ok p ∧ ∀ quoted, Piece.addAll quoted ps = p.add quoted := by
  obtain ⟨ps, hps, p, hp, hadd⟩ := forall_of_compositeSpecifiers (P := fun s text =>
    ∃ ps ∈ ((Token.scan text.toList).mapM Piece.ofToken?).toOption,
      ∃ p ∈ (Piece.ofToken? (.specifier s)).toOption,
        ∀ quoted, Piece.addAll quoted ps = p.add quoted) (by decide) h
  exact ⟨ps, p, eq_ok_of_mem_toOption hps, eq_ok_of_mem_toOption hp, hadd⟩

namespace Pattern

/-- What the tokens add to a pattern, inside a quote and outside. -/
def writer? (ts : List Token) : Except CompileError (Bool → List Char) :=
  (ts.mapM Piece.ofToken?).map fun ps quoted => write quoted ps

theorem ofTokens?_eq_map (ts : List Token) :
    ofTokens? ts = (writer? ts).map fun written => ⟨written false⟩ := by
  rw [ofTokens?_eq_write, writer?]
  cases ts.mapM Piece.ofToken? <;> rfl

theorem writer?_cons (t : Token) (ts : List Token) :
    writer? (t :: ts) = (Piece.ofToken? t).bind fun p =>
      (writer? ts).map fun written quoted => (p.add quoted).1 ++ written (p.add quoted).2 := by
  rw [writer?, writer?, List.mapM_cons]
  cases Piece.ofToken? t with
  | error e => rfl
  | ok p =>
    cases ts.mapM Piece.ofToken? with
    | error e => rfl
    | ok ps => exact congrArg Except.ok (funext fun quoted => write_cons quoted p ps)

theorem writer?_append (us ts : List Token) :
    writer? (us ++ ts) = (us.mapM Piece.ofToken?).bind fun ps =>
      (writer? ts).map fun written quoted =>
        (Piece.addAll quoted ps).1 ++ written (Piece.addAll quoted ps).2 := by
  rw [writer?, writer?, List.mapM_append]
  cases us.mapM Piece.ofToken? with
  | error e => rfl
  | ok ps =>
    cases ts.mapM Piece.ofToken? with
    | error e => rfl
    | ok qs => exact congrArg Except.ok (funext fun quoted => write_append quoted ps qs)

/-- **All specifiers.** Tokens add the same to a pattern as what they are written out as. -/
theorem writer?_flatMap_expansion (ts : List Token) :
    writer? (ts.flatMap (Token.replace (Specifier.expansion "%-d"))) = writer? ts := by
  induction ts with
  | nil => rfl
  | cons t ts ih =>
    rw [List.flatMap_cons, writer?_cons t ts]
    cases t with
    | literal c => rw [Token.replace_literal, List.singleton_append, writer?_cons, ih]
    | specifier s =>
      rw [Token.replace_specifier, Specifier.expansion]
      cases hs : s.expansion? "%-d" with
      | none => rw [List.singleton_append, writer?_cons, ih]
      | some text =>
        obtain ⟨ps, p, hps, hp, hadd⟩ := Specifier.addAll_scan hs
        rw [writer?_append, hps, hp, ih]
        simp only [Except.bind, hadd]

end Pattern

theorem Template.pattern_expand (t : Template) : (t.expand "%-d").pattern = t.pattern := by
  rw [pattern, pattern, tokens_expand (by simp), ofTokens?_eq_map, writer?_flatMap_expansion,
    ← ofTokens?_eq_map]

/-- **Abbreviations.** A template with every specifier for several fields written out gives the same text
for every instant, and has the same layout or none for a reason of the same kind. With the day of the
month not filled up, it has the same pattern or none for the same reason. -/
theorem Template.format_layout_pattern_expand (t : Template) :
    (∀ z, (t.expand "%e").format z = t.format z) ∧
      CompileError.SameOutcome t.layout (t.expand "%e").layout ∧
      (t.expand "%-d").pattern = t.pattern :=
  ⟨t.format_expand, t.sameOutcome_layout_expand, t.pattern_expand⟩

end DateTemplate
