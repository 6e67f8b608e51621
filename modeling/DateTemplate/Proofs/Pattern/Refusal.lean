import DateTemplate.Proofs.Token.Seam

/-!
# Which templates have a pattern

Whether a template has a pattern, and why it has none, is a matter of its specifiers. Each of them can be
tried on its own beforehand.

* `Pattern.ofTokens?_eq_error_iff`: tokens are refused because of the first specifier without a pattern.
* `Specifier.template`: a specifier as a template of its own, with the same tokens again
  (`Specifier.tokens_template`).
* `Template.pattern_iff_specifiers`: a template is refused exactly if one of its specifiers is refused as a
  template of its own, and for the reason of the first one.
-/

namespace DateTemplate

section

variable {ε α β : Type}

/-- An attempt that does not fail has a result. -/
theorem exists_eq_ok_iff (x : Except ε α) : (∃ a, x = .ok a) ↔ ∀ e, x ≠ .error e := by
  cases x <;> simp

theorem mapM_cons_eq_ok_iff (f : α → Except ε β) (a : α) (l : List α) (bs : List β) :
    (a :: l).mapM f = .ok bs ↔ ∃ b bs', f a = .ok b ∧ l.mapM f = .ok bs' ∧ bs = b :: bs' := by
  rw [List.mapM_cons]
  cases f a with
  | error e => simp [bind, Except.bind]
  | ok b => cases l.mapM f <;> simp [bind, Except.bind, pure, Except.pure, eq_comm]

/-- Attempts for a list fail with the first failure. -/
theorem mapM_cons_eq_error_iff (f : α → Except ε β) (a : α) (l : List α) (e : ε) :
    (a :: l).mapM f = .error e ↔ f a = .error e ∨ (∃ b, f a = .ok b) ∧ l.mapM f = .error e := by
  rw [List.mapM_cons]
  cases f a with
  | error e => simp [bind, Except.bind]
  | ok b => cases l.mapM f <;> simp [bind, Except.bind, pure, Except.pure]

end

namespace Pattern

theorem ofTokens?_eq_write (ts : List Token) :
    ofTokens? ts = (ts.mapM Piece.ofToken?).map fun ps => ⟨write false ps⟩ := by
  rw [ofTokens?]
  cases ts.mapM Piece.ofToken? <;> rfl

/-- What keeps a specifier from being put into a pattern. -/
theorem Piece.ofToken?_specifier_eq_error_iff (s : Specifier) (e : CompileError) :
    ofToken? (.specifier s) = .error e ↔ s.pattern? = none ∧ e = .unsupported s .uts35 .unknown := by
  rw [ofToken?]
  cases s.pattern? <;> simp [eq_comm]

theorem Piece.exists_ofToken?_specifier_iff (s : Specifier) :
    (∃ p, ofToken? (.specifier s) = .ok p) ↔ s.pattern? ≠ none := by
  simp [exists_eq_ok_iff, ofToken?_specifier_eq_error_iff]

/-- **All tokens.** Literal characters are never refused, so the first specifier without a pattern is the
reason. -/
theorem mapM_ofToken?_eq_error_iff (ts : List Token) (e : CompileError) :
    ts.mapM Piece.ofToken? = .error e ↔
      ∃ s ∈ (ts.filterMap Token.specifier?).find? (·.pattern? = none),
        e = .unsupported s .uts35 .unknown := by
  induction ts with
  | nil => simp [pure, Except.pure]
  | cons t ts ih =>
    rw [mapM_cons_eq_error_iff, ih]
    cases t with
    | literal c => simp [Piece.ofToken?, Token.specifier?]
    | specifier s =>
      rw [Piece.ofToken?_specifier_eq_error_iff, Piece.exists_ofToken?_specifier_iff]
      by_cases hs : s.pattern? = none <;> simp [hs, Token.specifier?]

theorem ofTokens?_eq_error_iff (ts : List Token) (e : CompileError) :
    ofTokens? ts = .error e ↔
      ∃ s ∈ (ts.filterMap Token.specifier?).find? (·.pattern? = none),
        e = .unsupported s .uts35 .unknown := by
  rw [← mapM_ofToken?_eq_error_iff, ofTokens?_eq_write]
  cases ts.mapM Piece.ofToken? <;> simp [Except.map]

end Pattern

/-- The specifier as a template of its own. -/
def Specifier.template (s : Specifier) : Template := ⟨toString s⟩

namespace Specifier

variable {s : Specifier} {t : Template}

/-- A specifier of a template is read again from its own text. -/
theorem tokens_template (h : s ∈ t.specifiers) : s.template.tokens = [.specifier s] := by
  have hclosed := Token.closed_of_mem_scan (Template.mem_specifiers.1 h)
  rw [Template.tokens, template, toString, instToString, String.toList_ofList]
  exact Token.scan_text hclosed

theorem pattern_template_eq_error_iff (h : s ∈ t.specifiers) (e : CompileError) :
    s.template.pattern = .error e ↔ s.pattern? = none ∧ e = .unsupported s .uts35 .unknown := by
  rw [Template.pattern, tokens_template h, Pattern.ofTokens?_eq_error_iff]
  by_cases hs : s.pattern? = none <;> simp [hs, Token.specifier?]

theorem exists_pattern_template_iff (h : s ∈ t.specifiers) :
    (∃ p, s.template.pattern = .ok p) ↔ s.pattern? ≠ none := by
  simp [exists_eq_ok_iff, pattern_template_eq_error_iff h]

end Specifier

namespace Template

theorem pattern_eq_error_iff (t : Template) (e : CompileError) :
    t.pattern = .error e ↔ ∃ s ∈ t.specifiers.find? (·.pattern? = none),
      e = .unsupported s .uts35 .unknown :=
  Pattern.ofTokens?_eq_error_iff t.tokens e

theorem exists_pattern_eq_ok_iff (t : Template) :
    (∃ p, t.pattern = .ok p) ↔ ∀ s ∈ t.specifiers, s.pattern? ≠ none := by
  have hnone : (∀ e, t.pattern ≠ .error e) ↔ t.specifiers.find? (·.pattern? = none) = none := by
    cases hfind : t.specifiers.find? (·.pattern? = none) <;> simp [pattern_eq_error_iff, hfind]
  rw [exists_eq_ok_iff, hnone, List.find?_eq_none]
  simp

/-- The same as `pattern_eq_error_iff` with the specifiers before the first one without a pattern. -/
theorem pattern_eq_error_iff_split (t : Template) (e : CompileError) :
    t.pattern = .error e ↔ ∃ us s vs, t.specifiers = us ++ s :: vs ∧ (∀ u ∈ us, u.pattern? ≠ none) ∧
      s.pattern? = none ∧ e = .unsupported s .uts35 .unknown := by
  simp only [pattern_eq_error_iff, Option.mem_def, List.find?_eq_some_iff_append]
  constructor
  · rintro ⟨s, ⟨hs, us, vs, hsplit, hus⟩, rfl⟩
    exact ⟨us, s, vs, hsplit, by simpa using hus, by simpa using hs, rfl⟩
  · rintro ⟨us, s, vs, hsplit, hus, hs, rfl⟩
    exact ⟨s, ⟨decide_eq_true hs, us, vs, hsplit, by simpa using hus⟩, rfl⟩

theorem specifiers_scanner (t : Template) : t.scanner.specifiers = t.specifiers := rfl

/-- **Trying the specifiers beforehand.** A template has a pattern exactly if each of the specifiers that a
scanner gives out has one as a template of its own. Otherwise the first of them that has none is the
reason, and the error is the one that it has on its own. Literal text has no part in it. -/
theorem pattern_iff_specifiers (t : Template) :
    t.scanner.drain.1 = t.specifiers ∧
      ((∃ p, t.pattern = .ok p) ↔ ∀ s ∈ t.specifiers, ∃ p, s.template.pattern = .ok p) ∧
      (∀ e, t.pattern = .error e ↔ ∃ us s vs, t.specifiers = us ++ s :: vs ∧
        (∀ u ∈ us, ∃ p, u.template.pattern = .ok p) ∧ s.template.pattern = .error e ∧
          e.specifier? = some s) ∧
      ∀ u : Template, u.specifiers = t.specifiers → ∀ e, u.pattern = .error e ↔ t.pattern = .error e := by
  refine ⟨?drain, ?ok, ?error, ?literals⟩
  case drain => rw [Scanner.drain_fst, specifiers_scanner]
  case ok =>
    rw [exists_pattern_eq_ok_iff]
    exact forall₂_congr fun s hs => (Specifier.exists_pattern_template_iff hs).symm
  case error =>
    intro e
    rw [pattern_eq_error_iff_split]
    refine exists₃_congr fun us s vs => and_congr_right fun hsplit => ?_
    have hmem : ∀ u ∈ us ++ s :: vs, u ∈ t.specifiers := fun u hu => hsplit ▸ hu
    refine and_congr (forall₂_congr fun u hu => ?_) ?_
    · exact (Specifier.exists_pattern_template_iff (hmem u (by simp [hu]))).symm
    · rw [Specifier.pattern_template_eq_error_iff (hmem s (by simp))]
      constructor
      · rintro ⟨hs, rfl⟩
        exact ⟨⟨hs, rfl⟩, rfl⟩
      · exact And.left
  case literals =>
    intro u hu e
    rw [pattern_eq_error_iff, pattern_eq_error_iff, hu]

example : Template.pattern ⟨"o'clock%-%%--%"⟩ = .error (.unsupported ⟨'-', false⟩ .uts35 .unknown) :=
  rfl

end Template

end DateTemplate
