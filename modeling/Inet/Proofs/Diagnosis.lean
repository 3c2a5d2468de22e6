import Inet.Proofs.Tracking

/-!
Finding the first fault. Rules say which characters of a text are at fault, judging each by the text before it, and what
is wrong at the end of a text that has no such character. A reader diagnoses by these rules if each character that it
refuses, and each end, is refused as the rules say; it then raises the error of the first fault from the left.
-/

namespace Inet

open String (utf8Len)

/-- What the rules hold against a character, given the text before it, and against the end of a text. -/
structure FaultRules where
  AtChar : List Char → Char → ParseError → Prop
  AtEnd : List Char → ParseError → Prop

variable {f : Family} {rules : FaultRules} {cs : List Char} {d : Char} {e : ParseError}

namespace FaultRules

def Clean (rules : FaultRules) (cs : List Char) : Prop :=
  ∀ before c after, cs = before ++ c :: after → ∀ e, ¬ rules.AtChar before c e

/-- The error is that of the first character at fault or, in a text without one, that of its end. -/
inductive FirstFault (rules : FaultRules) (cs : List Char) (e : ParseError) : Prop where
  | character {before after : List Char} {c : Char} : cs = before ++ c :: after → rules.Clean before →
    rules.AtChar before c e → FirstFault rules cs e
  | finish : rules.Clean cs → rules.AtEnd cs e → FirstFault rules cs e

structure Govern (f : Family) (rules : FaultRules) : Prop where
  step_iff {cs : List Char} {s : Scan} {c : Char} {e : ParseError} : Scan.start.run f 0 cs = .ok s →
    (s.step f (utf8Len cs) c = .error e ↔ rules.AtChar cs c e)
  end_iff {cs : List Char} {s : Scan} {e : ParseError} : Scan.start.run f 0 cs = .ok s →
    (s.EndError f e ↔ rules.AtEnd cs e)

theorem exists_cut_concat_iff {P : List Char → Char → Prop} :
    (∃ before c after, cs ++ [d] = before ++ c :: after ∧ P before c) ↔
      (∃ before c after, cs = before ++ c :: after ∧ P before c) ∨ P cs d := by
  constructor
  · rintro ⟨before, c, after, hcs, hP⟩
    rcases List.eq_nil_or_concat' after with rfl | ⟨after, b, rfl⟩
    · obtain ⟨rfl, hd⟩ := List.append_inj' hcs rfl
      cases hd
      exact .inr hP
    · rw [← List.cons_append, ← List.append_assoc] at hcs
      exact .inl ⟨before, c, after, (List.append_inj' hcs rfl).1, hP⟩
  · rintro (⟨before, c, after, rfl, hP⟩ | hP)
    · exact ⟨before, c, after ++ [d], by simp, hP⟩
    · exact ⟨cs, d, [], rfl, hP⟩

theorem clean_iff : rules.Clean cs ↔ ¬ ∃ before c after, cs = before ++ c :: after ∧ ∃ e, rules.AtChar before c e := by
  simp only [Clean, not_exists, not_and]

theorem clean_concat_iff : rules.Clean (cs ++ [d]) ↔ rules.Clean cs ∧ ∀ e, ¬ rules.AtChar cs d e := by
  rw [clean_iff, exists_cut_concat_iff, not_or, ← clean_iff, not_exists]

namespace Govern

variable (h : rules.Govern f)
include h

theorem exists_run_iff_clean : (∃ s, Scan.start.run f 0 cs = .ok s) ↔ rules.Clean cs := by
  induction cs using List.reverseRecOn with
  | nil => simp [Scan.run, clean_iff]
  | append_singleton cs c ih =>
    rw [clean_concat_iff, ← ih, Scan.run_append_singleton]
    cases hrun : Scan.start.run f 0 cs with
    | error e => simp [Except.bind]
    | ok s =>
      simp only [← h.step_iff hrun]
      cases hstep : s.step f (utf8Len cs) c <;> simp [Except.bind, hstep]

theorem run_eq_error_iff : Scan.start.run f 0 cs = .error e ↔
    ∃ before c after, cs = before ++ c :: after ∧ rules.Clean before ∧ rules.AtChar before c e := by
  induction cs using List.reverseRecOn with
  | nil => simp [Scan.run]
  | append_singleton cs c ih =>
    have hclean : (∃ s, Scan.start.run f 0 cs = .ok s) ↔ rules.Clean cs := h.exists_run_iff_clean
    rw [exists_cut_concat_iff, ← ih, Scan.run_append_singleton, ← hclean]
    cases hrun : Scan.start.run f 0 cs with
    | error e => simp [Except.bind]
    | ok s => simp [Except.bind, h.step_iff hrun]

theorem parse_eq_error_iff {text : String} : Address.parse f text = .error e ↔ rules.FirstFault text.toList e := by
  rw [Address.parse_eq_error_iff_scan, h.run_eq_error_iff]
  constructor
  · rintro (⟨before, c, after, htext, hclean, hfault⟩ | ⟨s, hrun, hend⟩)
    · exact .character htext hclean hfault
    · exact .finish (h.exists_run_iff_clean.1 ⟨s, hrun⟩) ((h.end_iff hrun).1 hend)
  · rintro (⟨htext, hclean, hfault⟩ | ⟨hclean, hfault⟩)
    · exact .inl ⟨_, _, _, htext, hclean, hfault⟩
    · obtain ⟨s, hrun⟩ := h.exists_run_iff_clean.2 hclean
      exact .inr ⟨s, hrun, (h.end_iff hrun).2 hfault⟩

end Govern

end FaultRules

end Inet
