import DateTemplate.Proofs.Pattern.Quoting
import Mathlib.Data.List.SplitBy

/-!
# Fields that fuse

A field of a pattern is a run of one letter, so two specifiers that follow each other directly make one
longer field if the first one ends with the letter that the second one begins with.

* `Pattern.fields_append`, `Pattern.length_fields_append`: the fields of two sequences of symbols behind
  each other, unless and if the last field of one and the first field of the other have one letter.
* `Token.Fuses`: whether the fields of two tokens that follow each other become one.
* `Template.fields_pattern_iff`: the fields of a template's pattern are those of its specifiers exactly
  if no specifier fuses with the one behind it.
-/

namespace DateTemplate

/-- An element that is like the first one of a list joins its run. -/
theorem exists_splitBy_cons_cons {α : Type} {r : α → α → Bool} {a b : α} (h : r a b) (l : List α) :
    ∃ g gs, (b :: l).splitBy r = (b :: g) :: gs ∧ (a :: b :: l).splitBy r = (a :: b :: g) :: gs := by
  have hne : (b :: l).splitBy r ≠ [] := by simp
  obtain ⟨g, gs, hgs⟩ := List.exists_cons_of_ne_nil hne
  obtain ⟨hflat, hnil, hchain, hseams⟩ := List.splitBy_eq_iff.1 hgs
  cases g with
  | nil => simp at hnil
  | cons c g =>
    obtain ⟨rfl, hl⟩ : b = c ∧ l = g ++ gs.flatten := by simpa using hflat
    refine ⟨g, gs, hgs, List.splitBy_eq_iff.2 ⟨by simp [hl], ?_, ?_, ?_⟩⟩
    · simpa using hnil
    · simpa [h] using hchain
    · cases gs with
      | nil => simp
      | cons g' gs => simpa using hseams

namespace Pattern

/-! ## Fields of symbols -/

@[simp] theorem fields_nil : fields [] = [] := rfl

/-- A literal character is no part of a field. -/
@[simp] theorem fields_literal_cons (c : Char) (ss : List Symbol) :
    fields (.literal c :: ss) = fields ss := by
  cases ss with
  | nil => rfl
  | cons s ss =>
    by_cases hs : Symbol.literal c = s
    · obtain ⟨g, gs, hgs, hgs'⟩ :=
        exists_splitBy_cons_cons (r := fun x y : Symbol => x = y) (decide_eq_true hs) ss
      subst hs
      rw [fields, fields, hgs, hgs']
      rfl
    · have hcut := List.splitBy_append_cons (r := fun x y : Symbol => x = y) (l := [.literal c]) ss
        (by simpa using hs)
      rw [fields, ← List.singleton_append, hcut]
      rfl

/-- A letter is a field of its own unless the same letter comes behind it. -/
theorem fields_letter_cons {c : Char} {ss : List Symbol} (h : ss.head? ≠ some (.letter c)) :
    fields (.letter c :: ss) = [c] :: fields ss := by
  cases ss with
  | nil => rfl
  | cons s ss =>
    have hs : Symbol.letter c ≠ s := by simpa [eq_comm] using h
    have hcut := List.splitBy_append_cons (r := fun x y : Symbol => x = y) (l := [.letter c]) ss
      (by simpa using hs)
    rw [fields, ← List.singleton_append, hcut]
    rfl

/-- A letter makes the field longer that begins with the same letter. -/
theorem exists_fields_letter_cons (c : Char) (ss : List Symbol) :
    ∃ f fs, fields (.letter c :: ss) = f :: fs ∧
      fields (.letter c :: .letter c :: ss) = (c :: f) :: fs := by
  obtain ⟨g, gs, hgs, hgs'⟩ :=
    exists_splitBy_cons_cons (r := fun x y : Symbol => x = y) (decide_eq_true (rfl : Symbol.letter c = _)) ss
  rw [fields, fields, hgs, hgs']
  exact ⟨_, _, rfl, rfl⟩

/-- The letters of the fields are those of the symbols. -/
theorem flatten_fields (ss : List Symbol) : (fields ss).flatten = ss.filterMap Symbol.letter? := by
  rw [fields, List.flatten_filter_ne_nil, ← List.filterMap_flatten, List.flatten_splitBy]

/-- Fields stay apart unless the letter before the cut is the one behind it. -/
theorem fields_append {ss us : List Symbol}
    (h : ∀ c, ss.getLast? = some (.letter c) → us.head? ≠ some (.letter c)) :
    fields (ss ++ us) = fields ss ++ fields us := by
  induction ss with
  | nil => rfl
  | cons s ss ih =>
    have ih : fields (ss ++ us) = fields ss ++ fields us := by
      refine ih fun c hc => h c ?_
      rw [List.getLast?_cons, hc]
      rfl
    cases s with
    | literal c => rw [List.cons_append, fields_literal_cons, fields_literal_cons, ih]
    | letter c =>
      by_cases hss : ss.head? = some (.letter c)
      · obtain ⟨ss, rfl⟩ := List.head?_eq_some_iff.1 hss
        obtain ⟨f, fs, hfs, hfs'⟩ := exists_fields_letter_cons c ss
        obtain ⟨g, gs, hgs, hgs'⟩ := exists_fields_letter_cons c (ss ++ us)
        rw [List.cons_append, hgs, hfs, List.cons_append, List.cons.injEq] at ih
        rw [List.cons_append, List.cons_append, hgs', hfs', ih.1, ih.2]
        rfl
      · have hhead : (ss ++ us).head? ≠ some (.letter c) := by
          cases ss with
          | nil => exact h c rfl
          | cons s ss => exact hss
        rw [List.cons_append, fields_letter_cons hhead, fields_letter_cons hss, ih]
        rfl

/-- Fields with one letter on both sides of a cut become one. -/
theorem length_fields_append {ss us : List Symbol} {c : Char} (hss : ss.getLast? = some (.letter c))
    (hus : us.head? = some (.letter c)) :
    (fields (ss ++ us)).length + 1 = (fields ss).length + (fields us).length := by
  induction ss with
  | nil => simp at hss
  | cons s ss ih =>
    cases ss with
    | nil =>
      obtain rfl : s = .letter c := by simpa using hss
      obtain ⟨us, rfl⟩ := List.head?_eq_some_iff.1 hus
      obtain ⟨f, fs, hfs, hfs'⟩ := exists_fields_letter_cons c us
      rw [List.singleton_append, hfs, hfs', fields_letter_cons (by simp)]
      simp [Nat.add_comm]
    | cons u ss =>
      have ih := ih (by simpa using hss)
      cases s with
      | literal d => simpa using ih
      | letter d =>
        by_cases hu : u = .letter d
        · obtain ⟨f, fs, hfs, hfs'⟩ := exists_fields_letter_cons d ss
          obtain ⟨g, gs, hgs, hgs'⟩ := exists_fields_letter_cons d (ss ++ us)
          subst hu
          rw [List.cons_append, hgs, hfs] at ih
          rw [List.cons_append, List.cons_append, hgs', hfs']
          simpa using ih
        · rw [List.cons_append, fields_letter_cons (by simpa using hu),
            fields_letter_cons (by simpa using hu), List.length_cons, List.length_cons]
          omega

end Pattern

/-! ## Fields of tokens -/

namespace Token

/-- The symbols that a token stands for, and none if it cannot be put into a pattern. -/
def symbols (t : Token) : List Pattern.Symbol := t.symbols?.getD []

/-- The letter that the pattern of a token begins with. -/
def firstLetter? (t : Token) : Option Char := t.symbols.head?.bind Pattern.Symbol.letter?

/-- The letter that the pattern of a token ends with. -/
def lastLetter? (t : Token) : Option Char := t.symbols.getLast?.bind Pattern.Symbol.letter?

/-- Whether the last field of a token and the first one of the token behind it become one. -/
def Fuses (t u : Token) : Prop := t.lastLetter?.isSome ∧ t.lastLetter? = u.firstLetter?

instance (t u : Token) : Decidable (t.Fuses u) := inferInstanceAs (Decidable (_ ∧ _))

theorem symbols_ne_nil {t : Token} {ss : List Pattern.Symbol} (h : t.symbols? = some ss) :
    t.symbols ≠ [] := by
  rw [symbols, h, Option.getD_some]
  cases t with
  | literal c =>
    cases h
    simp
  | specifier s =>
    obtain ⟨text, htext, rfl⟩ := Option.map_eq_some_iff.1 h
    simpa using (Specifier.pattern?_plain htext).1

theorem mapM_symbols?_eq_some {ts : List Token} {ss : List (List Pattern.Symbol)}
    (h : ts.mapM symbols? = some ss) :
    ss.flatten = ts.flatMap symbols ∧ ∀ t ∈ ts, t.symbols ≠ [] := by
  induction ts generalizing ss with
  | nil =>
    cases h
    simp
  | cons t ts ih =>
    simp only [List.mapM_cons, Option.bind_eq_bind, Option.bind_eq_some_iff, Option.pure_def,
      Option.some.injEq] at h
    obtain ⟨us, ht, uss, hts, rfl⟩ := h
    obtain ⟨hflat, hne⟩ := ih hts
    rw [List.flatten_cons, hflat, List.flatMap_cons]
    refine ⟨by simp [symbols, ht], ?_⟩
    simpa using ⟨symbols_ne_nil ht, hne⟩

theorem fuses_iff (t u : Token) : t.Fuses u ↔
    ∃ c, t.symbols.getLast? = some (.letter c) ∧ u.symbols.head? = some (.letter c) := by
  have hletter (s : Option Pattern.Symbol) (c : Char) :
      s.bind Pattern.Symbol.letter? = some c ↔ s = some (.letter c) := by
    cases s with
    | none => simp
    | some s => cases s <;> simp [Pattern.Symbol.letter?]
  simp only [Fuses, lastLetter?, firstLetter?, Option.isSome_iff_exists, ← hletter]
  constructor
  · rintro ⟨⟨c, hc⟩, h⟩
    exact ⟨c, hc, h ▸ hc⟩
  · rintro ⟨c, hc, h⟩
    exact ⟨⟨c, hc⟩, hc.trans h.symm⟩

end Token

/-- The fields of the pattern of a specifier. -/
def Specifier.patternFields (s : Specifier) : List (List Char) :=
  Pattern.fields (Token.specifier s).symbols

namespace Token

theorem flatMap_fields_eq (ts : List Token) :
    (ts.flatMap fun t => Pattern.fields t.symbols) =
      (ts.filterMap specifier?).flatMap Specifier.patternFields := by
  induction ts with
  | nil => rfl
  | cons t ts ih =>
    rw [List.flatMap_cons, ih]
    cases t <;> rfl

/-- **Fusion.** The fields of tokens behind each other are those of each token exactly if no token
fuses with the one behind it, and in any case there are no more of them. -/
theorem fields_flatMap_iff {ts : List Token} (h : ∀ t ∈ ts, t.symbols ≠ []) :
    (Pattern.fields (ts.flatMap symbols)).length ≤
        (ts.flatMap fun t => Pattern.fields t.symbols).length ∧
      (Pattern.fields (ts.flatMap symbols) = (ts.flatMap fun t => Pattern.fields t.symbols) ↔
        ts.IsChain fun t u => ¬ t.Fuses u) := by
  induction ts with
  | nil => simp
  | cons t ts ih =>
    obtain ⟨hle, hiff⟩ := ih fun u hu => h u (List.mem_cons_of_mem t hu)
    cases ts with
    | nil => simp
    | cons u ts =>
      have hhead : ((u :: ts).flatMap symbols).head? = u.symbols.head? := by
        obtain ⟨s, ss, hs⟩ := List.exists_cons_of_ne_nil (h u (by simp))
        simp [hs]
      have hsymbols : (t :: u :: ts).flatMap symbols = t.symbols ++ (u :: ts).flatMap symbols := rfl
      have hfields : ((t :: u :: ts).flatMap fun t => Pattern.fields t.symbols) =
          Pattern.fields t.symbols ++ (u :: ts).flatMap fun t => Pattern.fields t.symbols := rfl
      rw [hsymbols, hfields, List.length_append, List.isChain_cons_cons]
      by_cases hf : t.Fuses u
      · obtain ⟨c, hlast, hfirst⟩ := (t.fuses_iff u).1 hf
        have hlen := Pattern.length_fields_append hlast (hhead.trans hfirst)
        refine ⟨by omega, iff_of_false (fun heq => ?_) fun hc => hc.1 hf⟩
        have := congrArg List.length heq
        rw [List.length_append] at this
        omega
      · have happ : Pattern.fields (t.symbols ++ (u :: ts).flatMap symbols) =
            Pattern.fields t.symbols ++ Pattern.fields ((u :: ts).flatMap symbols) :=
          Pattern.fields_append fun c hc hc' => hf ((t.fuses_iff u).2 ⟨c, hc, hhead ▸ hc'⟩)
        rw [happ, List.length_append]
        refine ⟨by omega, ?_⟩
        simp only [List.append_cancel_left_eq, hf, not_false_eq_true, true_and]
        exact hiff

end Token

namespace Template

/-- **Fields of a pattern.** The letters of a template's pattern are those of its specifiers, and they
are the same fields exactly if no specifier fuses with the one right behind it. -/
theorem fields_pattern_iff {t : Template} {p : Pattern} (h : t.pattern = .ok p) :
    ∃ ss, p.symbols? = some ss ∧
      (Pattern.fields ss).flatten = (t.specifiers.flatMap Specifier.patternFields).flatten ∧
      (Pattern.fields ss = t.specifiers.flatMap Specifier.patternFields ↔
        t.tokens.IsChain fun u v => ¬ u.Fuses v) := by
  obtain ⟨ss, hss, hp⟩ := Pattern.symbols?_ofTokens? h
  obtain ⟨hflat, hne⟩ := Token.mapM_symbols?_eq_some hss
  have hspecifiers : t.specifiers.flatMap Specifier.patternFields =
      t.tokens.flatMap fun u => Pattern.fields u.symbols := (Token.flatMap_fields_eq t.tokens).symm
  rw [hflat] at hp
  refine ⟨_, hp, ?_, ?_⟩
  · rw [hspecifiers, Pattern.flatten_fields, List.flatten_eq_flatMap, List.flatMap_assoc,
      List.filterMap_flatMap]
    refine List.flatMap_congr fun u _ => ?_
    rw [List.flatMap_id, Pattern.flatten_fields]
  · rw [hspecifiers]
    exact (Token.fields_flatMap_iff hne).2

/-- A literal character, or a field of another letter, keeps fields apart. -/
theorem fields_pattern_month_day :
    let t : Template := ⟨"%m %b'%B%d"⟩
    ∃ p ss, t.pattern = .ok p ∧ (t.tokens.IsChain fun u v => ¬ u.Fuses v) ∧
      p.symbols? = some ss ∧ Pattern.fields ss = t.specifiers.flatMap Specifier.patternFields := by
  obtain ⟨p, hp⟩ : ∃ p, Template.pattern ⟨"%m %b'%B%d"⟩ = .ok p := ⟨_, rfl⟩
  obtain ⟨ss, hss, -, hiff⟩ := fields_pattern_iff hp
  have hapart : (Template.tokens ⟨"%m %b'%B%d"⟩).IsChain fun u v => ¬ u.Fuses v := by decide
  exact ⟨p, ss, hp, hapart, hss, hiff.2 hapart⟩

/-- The two digits of a month and its short name become a field of five letters, which is a name of
one letter. -/
theorem fields_pattern_month_twice :
    let t : Template := ⟨"%m%b"⟩
    ∃ p ss, t.pattern = .ok p ∧ p.symbols? = some ss ∧ Pattern.fields ss = ["MMMMM".toList] ∧
      t.specifiers.flatMap Specifier.patternFields = ["MM".toList, "MMM".toList] :=
  ⟨_, _, rfl, rfl, by decide, by decide⟩

end Template

end DateTemplate
