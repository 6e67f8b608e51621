import DateTemplate.Pattern.Symbol
import DateTemplate.Proofs.Field.Table
import DateTemplate.Proofs.Pattern.Refusal

/-!
# Quoting in patterns

A pattern is read back as what was to be written: no literal character becomes a field, no field
becomes literal text, and no apostrophe is lost or added.

* `Pattern.readSymbols?_lone_quote`, `Pattern.readSymbols?_doubled_quote`: an apostrophe is a quote
  exactly if none comes right behind it.
* `Pattern.Piece.Plain`: what is required of the text of fields.
* `Pattern.readSymbols?_write`: what is written inside or outside a quote is read back there.
* `Pattern.ofTokens?_eq_ok_iff`: the pattern of a sequence of tokens.
* `Template.symbols?_pattern`: the symbols of a template's pattern are those of its tokens.
-/

namespace DateTemplate

namespace Specifier

/-- The directives that can be put into a pattern. -/
def patternDirectives : List Char :=
  ['A', 'a', 'B', 'b', 'h', 'c', 'D', 'x', 'd', 'F', 'f', 'G', 'g', 'H', 'I', 'j', 'L', 'M', 'm',
    'N', 'p', 'R', 'r', 'S', 'T', 'X', 'V', 'v', 'Y', 'y', 'Z', 'z', '+', '%', 't', 'n']

/-- Each of these directives with and without the flag. -/
def patternSpecifiers : List Specifier :=
  patternDirectives.flatMap fun d => [⟨d, true⟩, ⟨d, false⟩]

theorem directive_mem_of_pattern? {s : Specifier} {text : String} (h : s.pattern? = some text) :
    s.directive ∈ patternDirectives := by
  refine Decidable.byContradiction fun hd => ?_
  simp only [patternDirectives, List.mem_cons, List.not_mem_nil, or_false, not_or] at hd
  unfold pattern? at h
  simp [hd] at h

theorem mem_patternSpecifiers {s : Specifier} {text : String} (h : s.pattern? = some text) :
    s ∈ patternSpecifiers :=
  mem_flatMap_flags (directive_mem_of_pattern? h)

theorem isSome_pattern?_iff (s : Specifier) : s.pattern?.isSome ↔ s.directive ∈ patternDirectives := by
  have hall : ∀ s ∈ patternSpecifiers, s.pattern?.isSome := by decide
  refine ⟨fun h => ?_, fun h => hall s (mem_flatMap_flags h)⟩
  obtain ⟨text, htext⟩ := Option.isSome_iff_exists.1 h
  exact directive_mem_of_pattern? htext

/-- The pattern of a specifier is not empty and has no apostrophe. -/
theorem pattern?_plain {s : Specifier} {text : String} (h : s.pattern? = some text) :
    text.toList ≠ [] ∧ '\'' ∉ text.toList := by
  have hall : ∀ s ∈ patternSpecifiers, ∀ text ∈ s.pattern?, text.toList ≠ [] ∧ '\'' ∉ text.toList := by
    decide
  exact hall s (mem_patternSpecifiers h) text h

end Specifier

namespace Pattern

/-! ## Reading -/

theorem readSymbols?_doubled_quote (quoted : Bool) (cs : List Char) :
    readSymbols? quoted ('\'' :: '\'' :: cs) = (readSymbols? quoted cs).map (.literal '\'' :: ·) := by
  rw [readSymbols?]

theorem readSymbols?_lone_quote (quoted : Bool) {cs : List Char} (h : cs.head? ≠ some '\'') :
    readSymbols? quoted ('\'' :: cs) = readSymbols? (!quoted) cs := by
  cases cs with
  | nil => cases quoted <;> rfl
  | cons c cs =>
    have hc : c ≠ '\'' := by simpa using h
    rw [readSymbols?]
    · simp
    · simpa using hc

theorem readSymbols?_cons_of_ne (quoted : Bool) {c : Char} (h : c ≠ '\'') (cs : List Char) :
    readSymbols? quoted (c :: cs) =
      (readSymbols? quoted cs).map ((if quoted then .literal c else .ofChar c) :: ·) := by
  rw [readSymbols?]
  · simp [h]
  · simp [h]

/-- Outside quotes a text without apostrophes is read character by character. -/
theorem readSymbols?_append {text : List Char} (h : '\'' ∉ text) (cs : List Char) :
    readSymbols? false (text ++ cs) = (readSymbols? false cs).map (text.map .ofChar ++ ·) := by
  induction text with
  | nil => simp
  | cons c text ih =>
    obtain ⟨hc, htext⟩ : c ≠ '\'' ∧ '\'' ∉ text := by simpa [eq_comm] using h
    rw [List.cons_append, readSymbols?_cons_of_ne false hc, ih htext]
    simp [Function.comp_def]

/-! ## Writing -/

/-- The symbols that a piece stands for. -/
def Piece.symbols : Piece → List Symbol
  | literal c => [.literal c]
  | fields text => text.map .ofChar

/-- Whether the piece is written without any apostrophe that its literal characters do not have. -/
def Piece.Plain : Piece → Prop
  | literal _ => True
  | fields text => text ≠ [] ∧ '\'' ∉ text

/-- The end of an open quote is one, since no apostrophe comes right behind it. -/
theorem readSymbols?_closing (quoted : Bool) {cs : List Char} (h : cs.head? ≠ some '\'') :
    readSymbols? quoted (closing quoted ++ cs) = readSymbols? false cs := by
  cases quoted with
  | false => rfl
  | true => exact readSymbols?_lone_quote true h

/-- **Writing and reading.** What is written inside or outside a quote is read back there. -/
theorem readSymbols?_write (quoted : Bool) {ps : List Piece} (h : ∀ p ∈ ps, p.Plain) :
    readSymbols? quoted (write quoted ps) = some (ps.flatMap Piece.symbols) := by
  induction ps generalizing quoted with
  | nil =>
    have hend : readSymbols? quoted (closing quoted ++ []) = some [] :=
      readSymbols?_closing quoted (by simp)
    rwa [List.append_nil] at hend
  | cons p ps ih =>
    have ih (quoted : Bool) := ih quoted fun q hq => h q (List.mem_cons_of_mem p hq)
    cases p with
    | fields text =>
      obtain ⟨hne, hplain⟩ := h (.fields text) List.mem_cons_self
      have hhead : (text ++ write false ps).head? ≠ some '\'' := by
        obtain ⟨c, cs, rfl⟩ := List.exists_cons_of_ne_nil hne
        rintro ⟨⟩
        exact hplain List.mem_cons_self
      rw [write, List.append_assoc, readSymbols?_closing quoted hhead, readSymbols?_append hplain, ih]
      rfl
    | literal c =>
      by_cases hc : c = '\''
      · rw [write, if_pos hc, readSymbols?_doubled_quote, ih, hc]
        rfl
      · rw [write, if_neg hc]
        by_cases hopen : c.isAlpha && !quoted
        · -- The quote that opens here is one, since the letter comes right behind it.
          obtain rfl : quoted = false := by simp_all
          rw [if_pos hopen, readSymbols?_lone_quote false (by simpa using hc), Bool.not_false,
            readSymbols?_cons_of_ne true hc, ih]
          rfl
        · have hsymbol : (if quoted then Symbol.literal c else .ofChar c) = .literal c := by
            cases quoted <;> simp_all [Symbol.ofChar]
          rw [if_neg hopen, readSymbols?_cons_of_ne quoted hc, ih, hsymbol]
          rfl

/-! ## The whole pattern -/

theorem Piece.ofToken?_eq_ok {t : Token} {p : Piece} (h : ofToken? t = .ok p) :
    t.symbols? = some p.symbols ∧ p.Plain := by
  cases t with
  | literal c =>
    cases h
    exact ⟨rfl, trivial⟩
  | specifier s =>
    cases hs : s.pattern? with
    | none => simp [ofToken?, hs] at h
    | some text =>
      obtain rfl : p = .fields text.toList := by simpa [ofToken?, hs, eq_comm] using h
      exact ⟨by simp [Token.symbols?, hs, symbols], Specifier.pattern?_plain hs⟩

theorem mapM_ofToken?_eq_ok {ts : List Token} {ps : List Piece}
    (h : ts.mapM Piece.ofToken? = .ok ps) :
    ts.mapM Token.symbols? = some (ps.map Piece.symbols) ∧ ∀ p ∈ ps, p.Plain := by
  induction ts generalizing ps with
  | nil =>
    cases h
    simp
  | cons t ts ih =>
    obtain ⟨p, qs, ht, hts, rfl⟩ := (mapM_cons_eq_ok_iff _ _ _ _).1 h
    obtain ⟨hp, hplain⟩ := Piece.ofToken?_eq_ok ht
    obtain ⟨hqs, hplains⟩ := ih hts
    rw [List.mapM_cons]
    simpa [hp, hqs, hplain] using hplains

theorem ofTokens?_eq_ok_iff (ts : List Token) (p : Pattern) :
    ofTokens? ts = .ok p ↔ ∃ ps, ts.mapM Piece.ofToken? = .ok ps ∧ p = ⟨write false ps⟩ := by
  rw [ofTokens?_eq_write]
  cases ts.mapM Piece.ofToken? <;> simp [Except.map, eq_comm]

/-- The pattern of tokens ends outside quotes and is read as what the tokens stand for. -/
theorem symbols?_ofTokens? {ts : List Token} {p : Pattern} (h : ofTokens? ts = .ok p) :
    ∃ ss, ts.mapM Token.symbols? = some ss ∧ p.symbols? = some ss.flatten := by
  obtain ⟨ps, hps, rfl⟩ := (ofTokens?_eq_ok_iff _ _).1 h
  obtain ⟨hss, hplain⟩ := mapM_ofToken?_eq_ok hps
  exact ⟨_, hss, by rw [symbols?, readSymbols?_write false hplain, List.flatMap_def]⟩

end Pattern

namespace Template

/-- **Quoting.** The pattern of a template ends outside quotes and is read as what the tokens of the
template stand for, one after the other. -/
theorem symbols?_pattern {t : Template} {p : Pattern} (h : t.pattern = .ok p) :
    ∃ ss, t.tokens.mapM Token.symbols? = some ss ∧ p.symbols? = some ss.flatten :=
  Pattern.symbols?_ofTokens? h

/-- Apostrophes at both ends of a quote, in it, before a specifier and at the end. -/
theorem symbols?_pattern_apostrophes :
    let t : Template := ⟨"'o'%-Iq'%%''%"⟩
    ∃ p ss, t.pattern = .ok p ∧ p.text = "'''o'''h'q'''%''''%".toList ∧
      t.tokens.mapM Token.symbols? = some ss ∧ p.symbols? = some ss.flatten := by
  obtain ⟨p, hp, htext⟩ : ∃ p, Template.pattern ⟨"'o'%-Iq'%%''%"⟩ = .ok p ∧
      p.text = "'''o'''h'q'''%''''%".toList := ⟨_, rfl, by decide⟩
  obtain ⟨ss, h⟩ := symbols?_pattern hp
  exact ⟨p, ss, hp, htext, h⟩

end Template

end DateTemplate
