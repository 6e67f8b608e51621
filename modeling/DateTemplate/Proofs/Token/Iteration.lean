import DateTemplate.Template
import Mathlib.Logic.Function.Iterate

/-!
# Going through a text step by step

A scanner gives out the tokens, or the specifiers, of a text one by one, and then nothing any more. Both
ways to step are iterators, and what is said of iterators here holds for both.

* `Scanner.Enumerates`: the items that an iterator has still to give out. `Scanner.enumerates_next` and
  `Scanner.enumerates_nextSpecifier` say which these are.
* `Scanner.Settled`: the invariant of the pending character.
* `Scanner.exists_input_eq`, `Scanner.exists_nextSpecifier_eq`: how far one step goes.
* `Template.iterates_tokens_specifiers`: every run through a template, and what comes after its end.
-/

namespace DateTemplate

namespace Scanner

/-! ## Iterators -/

section Iterators

variable {α : Type} {step : Scanner → Option α × Scanner} {items : Scanner → List α}

/-- The scanner after `n` steps, whether or not they gave out anything. -/
def afterSteps (step : Scanner → Option α × Scanner) (n : Nat) : Scanner → Scanner :=
  (fun s => (step s).2)^[n]

/-- A run to the end, from one scanner to another. It gives out items until a step gives none. -/
inductive RunsOut (step : Scanner → Option α × Scanner) : Scanner → List α → Scanner → Prop where
  | done {s s' : Scanner} (h : step s = (none, s')) : RunsOut step s [] s'
  | more {s s' s'' : Scanner} {a : α} {as : List α} (h : step s = (some a, s'))
    (run : RunsOut step s' as s'') : RunsOut step s (a :: as) s''

/-- Whether every step gives out the first of the items still to come and leaves the others. -/
structure Enumerates (step : Scanner → Option α × Scanner) (items : Scanner → List α) : Prop where
  step_fst : ∀ s, (step s).1 = (items s).head?
  items_step : ∀ s, items (step s).2 = (items s).tail

namespace Enumerates

variable (h : Enumerates step items) {s s' : Scanner} {a : α}
include h

theorem items_of_none (hstep : step s = (none, s')) : items s = [] := by
  have hfst := h.step_fst s
  rw [hstep] at hfst
  exact List.head?_eq_none_iff.1 hfst.symm

theorem items_of_some (hstep : step s = (some a, s')) : items s = a :: items s' := by
  have hfst := h.step_fst s
  have hsnd := h.items_step s
  rw [hstep] at hfst hsnd
  obtain ⟨as, has⟩ := List.head?_eq_some_iff.1 hfst.symm
  rw [hsnd, has, List.tail_cons]

/-- What a run to the end gives out is what was still to come, and there is such a run. -/
theorem exists_runsOut_iff (s : Scanner) (as : List α) :
    (∃ s', RunsOut step s as s') ↔ as = items s := by
  constructor
  · rintro ⟨s', hrun⟩
    induction hrun with
    | done hstep => rw [h.items_of_none hstep]
    | more hstep _ ih => rw [h.items_of_some hstep, ih]
  · intro has
    induction as generalizing s with
    | nil =>
      have hnone : (step s).1 = none := by rw [h.step_fst, ← has, List.head?_nil]
      exact ⟨_, .done (Prod.ext hnone rfl)⟩
    | cons a as ih =>
      have hsome : (step s).1 = some a := by rw [h.step_fst, ← has, List.head?_cons]
      have htail : as = items (step s).2 := by rw [h.items_step, ← has, List.tail_cons]
      obtain ⟨s', hrun⟩ := ih _ htail
      exact ⟨s', .more (Prod.ext hsome rfl) hrun⟩

theorem items_afterSteps (n : Nat) (s : Scanner) : items (afterSteps step n s) = (items s).drop n := by
  induction n generalizing s with
  | zero => rfl
  | succ n ih =>
    have hsucc : afterSteps step (n + 1) s = afterSteps step n (step s).2 := rfl
    rw [hsucc, ih, h.items_step, List.drop_tail]

theorem step_afterSteps (n : Nat) (s : Scanner) : (step (afterSteps step n s)).1 = (items s)[n]? := by
  rw [h.step_fst, h.items_afterSteps, List.head?_drop]

end Enumerates

end Iterators

theorem enumerates_next : Enumerates next remaining := ⟨next_fst, remaining_next⟩

theorem enumerates_nextSpecifier : Enumerates nextSpecifier specifiers :=
  ⟨nextSpecifier_fst, specifiers_nextSpecifier⟩

/-- Draining a scanner is a run to the end. -/
theorem runsOut_drain (s : Scanner) : RunsOut nextSpecifier s s.drain.1 s.drain.2 := by
  induction s using drain.induct with
  | case1 s s' h =>
    rw [drain_of_none h]
    exact .done h
  | case2 s p s' h ih =>
    rw [drain_of_some h]
    exact .more h ih

/-! ## The pending character -/

/-- Whether a character is pending only behind the end of the text, where no escape is open. -/
def Settled (s : Scanner) : Prop := ∀ c ∈ s.pending, s.input = [] ∧ s.escape = .closed

theorem settled_start (cs : List Char) : (start cs).Settled := by simp [Settled, start]

private theorem settled_advance (e : Escape) (cs : List Char) : (advance e cs).2.Settled := by
  induction cs generalizing e with
  | nil => cases e <;> simp [advance, Escape.unread, Settled, exhausted, start]
  | cons c cs ih =>
    unfold advance
    rcases e.step c with ⟨e', _ | t⟩
    · exact ih e'
    · simp [Settled]

theorem settled_next (s : Scanner) : s.next.2.Settled := by
  rcases s with ⟨cs, e, _ | c⟩
  · exact settled_advance e cs
  · simp [next, Settled]

theorem settled_nextSpecifier (s : Scanner) : s.nextSpecifier.2.Settled := by
  induction s using nextSpecifier.induct with
  | case1 s s' h =>
    rw [nextSpecifier_of_none h]
    exact congrArg Prod.snd h ▸ s.settled_next
  | case2 s p s' h =>
    rw [nextSpecifier_of_specifier h]
    exact congrArg Prod.snd h ▸ s.settled_next
  | case3 s c s' h ih => rwa [nextSpecifier_of_literal h]

/-- A scanner that is settled before and after each step is settled all the time. -/
theorem settled_afterSteps {α : Type} {step : Scanner → Option α × Scanner}
    (h : ∀ s, (step s).2.Settled) {s : Scanner} (hs : s.Settled) (n : Nat) :
    (afterSteps step n s).Settled := by
  induction n generalizing s with
  | zero => exact hs
  | succ n ih => exact ih (h s)

/-! ## How far a step goes -/

private theorem exists_input_eq_of_advance (e : Escape) (cs : List Char) :
    ∃ ds, ds.length + e.unread.length ≤ 3 ∧ cs = ds ++ (advance e cs).2.input := by
  induction cs generalizing e with
  | nil => cases e <;> exact ⟨[], by decide, rfl⟩
  | cons c cs ih =>
    have htext := congrArg List.length (e.text_step c)
    unfold advance
    rcases hs : e.step c with ⟨e', _ | t⟩
    · obtain ⟨ds, hlen, hcs⟩ := ih e'
      refine ⟨c :: ds, ?_, congrArg (c :: ·) hcs⟩
      simp [hs] at htext ⊢
      omega
    · refine ⟨[c], ?_, rfl⟩
      cases e <;> simp [Escape.unread]

/-- A step to the next token reads three characters at most. -/
theorem exists_input_eq (s : Scanner) : ∃ cs, cs.length ≤ 3 ∧ s.input = cs ++ s.next.2.input := by
  rcases s with ⟨cs, e, _ | c⟩
  · obtain ⟨ds, hlen, hcs⟩ := exists_input_eq_of_advance e cs
    exact ⟨ds, by omega, hcs⟩
  · exact ⟨[], Nat.zero_le 3, rfl⟩

/-- A step to the next specifier is some steps over literal characters and one more. -/
theorem exists_nextSpecifier_eq (s : Scanner) : ∃ k,
    (∀ i < k, ∃ c, (afterSteps next i s).next.1 = some (.literal c)) ∧
      s.nextSpecifier =
        ((afterSteps next k s).next.1.bind Token.specifier?, afterSteps next (k + 1) s) := by
  induction s using nextSpecifier.induct with
  | case1 s s' h =>
    refine ⟨0, by simp, ?_⟩
    rw [nextSpecifier_of_none h]
    simp [afterSteps, h]
  | case2 s p s' h =>
    refine ⟨0, by simp, ?_⟩
    rw [nextSpecifier_of_specifier h]
    simp [afterSteps, h, Token.specifier?]
  | case3 s c s' h ih =>
    obtain ⟨k, hliteral, hk⟩ := ih
    have hsucc (n : Nat) : afterSteps next (n + 1) s = afterSteps next n s' := by
      simp [afterSteps, h]
    refine ⟨k + 1, fun i hi => ?_, ?_⟩
    · cases i with
      | zero => exact ⟨c, congrArg Prod.fst h⟩
      | succ i =>
        rw [hsucc]
        exact hliteral i (Nat.lt_of_succ_lt_succ hi)
    · rw [nextSpecifier_of_literal h, hsucc, hsucc, hk]

/-! ## Whole runs -/

/-- What an iterator does that gives out `whole` from the scanner `s₀` on, wherever it stands. -/
structure Iterates {α : Type} (step : Scanner → Option α × Scanner) (whole : List α) (s₀ : Scanner) :
    Prop where
  /-- A character is pending only at the end of the text. -/
  settled : ∀ n, (afterSteps step n s₀).Settled
  /-- The steps that follow give out what has not been given out yet. -/
  gives : ∀ n m, (step (afterSteps step m (afterSteps step n s₀))).1 = (whole.drop n)[m]?
  /-- So does a copy of the scanner that runs to the end, and it gets there. -/
  runsOut : ∀ n as, (∃ s, RunsOut step (afterSteps step n s₀) as s) ↔ as = whole.drop n
  /-- Nothing comes after the end. -/
  ended : ∀ n, (step (afterSteps step n s₀)).1 = none →
    ∀ m, (step (afterSteps step m (afterSteps step n s₀))).1 = none

theorem Enumerates.iterates {α : Type} {step : Scanner → Option α × Scanner}
    {items : Scanner → List α} (h : Enumerates step items) (hstep : ∀ s, (step s).2.Settled)
    {s : Scanner} (hs : s.Settled) : Iterates step (items s) s where
  settled := settled_afterSteps hstep hs
  gives n m := by rw [h.step_afterSteps, h.items_afterSteps]
  runsOut n as := by rw [h.exists_runsOut_iff, h.items_afterSteps]
  ended n hn m := by
    rw [h.step_fst, List.head?_eq_none_iff] at hn
    rw [h.step_afterSteps, hn, List.getElem?_nil]

end Scanner

/-- **Iterators.** Both the tokens and the specifiers of a template are given out one by one, in order and
each once, and from the first step on that gives nothing no step gives anything. A step to the next token
reads three characters at most, and a step to the next specifier is finitely many of these. -/
theorem Template.iterates_tokens_specifiers (t : Template) :
    Scanner.Iterates Scanner.next t.tokens t.scanner ∧
    Scanner.Iterates Scanner.nextSpecifier t.specifiers t.scanner ∧
    (∀ s : Scanner, Scanner.RunsOut Scanner.nextSpecifier s s.drain.1 s.drain.2) ∧
    (∀ s : Scanner, ∃ cs, cs.length ≤ 3 ∧ s.input = cs ++ s.next.2.input) ∧
    ∀ s : Scanner, ∃ k,
      (∀ i < k, ∃ c, (Scanner.afterSteps Scanner.next i s).next.1 = some (.literal c)) ∧
        s.nextSpecifier = ((Scanner.afterSteps Scanner.next k s).next.1.bind Token.specifier?,
          Scanner.afterSteps Scanner.next (k + 1) s) := by
  have hstart : t.scanner.Settled := Scanner.settled_start t.text.toList
  refine ⟨?_, ?_, Scanner.runsOut_drain, Scanner.exists_input_eq, Scanner.exists_nextSpecifier_eq⟩
  · exact Scanner.enumerates_next.iterates Scanner.settled_next hstart
  · exact Scanner.enumerates_nextSpecifier.iterates Scanner.settled_nextSpecifier hstart

example : (List.range 4).map (fun n =>
    (Scanner.afterSteps Scanner.next n (Template.scanner ⟨"%-"⟩)).next.1) =
    [some (.literal '%'), some (.literal '-'), none, none] := by decide

end DateTemplate
