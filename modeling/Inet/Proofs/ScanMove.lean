import Mathlib.Data.List.Induction
import Mathlib.Data.String.Basic
import Inet.Address.Scan
import Inet.Proofs.Grammar

/-!
What one character does to a scan. A character that raises no error begins or continues the digits of a component,
closes a component, or is one of the colons that make a gap. All that is said of whole runs follows from these moves.
-/

namespace Inet

open String (utf8Len)

def Family.closedMark : Family → Mark
  | .v4 => .dot
  | .v6 => .colon

inductive Mark.Open : Mark → Prop where
  | start : Open .start
  | dot : Open .dot
  | colon : Open .colon
  | gap : Open .gap

inductive Mark.Colon : Mark → Prop where
  | leadingColon : Colon .leadingColon
  | colon : Colon .colon
  | gap : Colon .gap

namespace Scan

variable {f : Family} {s t : Scan} {position : Nat} {c : Char}

/-- The moves of a scan at a character that stands at `position`. -/
inductive Move : Family → Scan → Nat → Char → Scan → Prop where
  | beginDigits {f : Family} {s : Scan} {position d : Nat} {c : Char} :
    s.mark.Open → Numeral.Writes f.radix c d → Move f s position c { s with mark := .digits position 1 d }
  | extendDigits {f : Family} {s : Scan} {position first count value d : Nat} {c : Char} :
    s.mark = .digits first count value → count < f.maxDigits → Numeral.Writes f.radix c d →
      Move f s position c { s with mark := .digits first (count + 1) (value * f.radix + d) }
  | close {f : Family} {s : Scan} {position first count value : Nat} :
    s.mark = .digits first count value → s.components.length < f.componentCount → value < f.componentBase →
      Move f s position f.separator { s with components := s.components ++ [value], mark := f.closedMark }
  | leadingColon {s : Scan} {position : Nat} :
    s.mark = .start → Move .v6 s position ':' { s with mark := .leadingColon }
  | gap {s : Scan} {position : Nat} :
    s.mark.Colon → s.gap = none → Move .v6 s position ':' { s with gap := some s.components.length, mark := .gap }

theorem close_eq_ok_iff {value : Nat} {mark : Mark} : s.close f value mark = .ok t ↔
    s.components.length < f.componentCount ∧ value < f.componentBase ∧
      t = { s with components := s.components ++ [value], mark } := by
  unfold close
  split_ifs with hlen hvalue
  · simp [Nat.not_lt.2 hlen]
  · simp [Nat.not_lt.2 hvalue]
  · simp [Nat.not_le.1 hlen, Nat.not_le.1 hvalue, eq_comm]

theorem Move.of_digit {d : Nat} (hc : Numeral.digit? c = some d) (h : s.digit f position d = .ok t) :
    Move f s position c t := by
  have hwrites (hd : d < f.radix) : Numeral.Writes f.radix c d :=
    (Numeral.writes_iff f.radix_le).2 ⟨hc, hd⟩
  unfold digit at h
  split at h
  next first count value hmark =>
    dsimp only at h
    split_ifs at h with hbad
    rw [not_or, Nat.not_le, Nat.not_le] at hbad
    injection h with h
    exact h ▸ .extendDigits hmark hbad.2 (hwrites hbad.1)
  next => cases h
  -- At every mark where a component may begin, the digit is its first.
  all_goals
    rename_i hmark
    dsimp only at h
    split_ifs at h with hbad
    rw [not_or, Nat.not_le] at hbad
    injection h with h
    simp only [Nat.zero_mul, Nat.zero_add] at h
    exact h ▸ .beginDigits (hmark ▸ by constructor) (hwrites hbad.1)

theorem Move.of_dot (h : s.dot f = .ok t) : Move f s position '.' t := by
  unfold dot at h
  split at h
  next first count value hmark =>
    obtain ⟨hlen, hvalue, rfl⟩ := close_eq_ok_iff.1 h
    exact .close hmark hlen hvalue
  next => cases h

theorem Move.of_colon (h : s.colon f = .ok t) : Move f s position ':' t := by
  unfold colon at h
  split at h
  next => cases h
  next => cases h
  next hmark =>
    injection h with h
    exact h ▸ .leadingColon hmark
  next first count value hmark =>
    obtain ⟨hlen, hvalue, rfl⟩ := close_eq_ok_iff.1 h
    exact .close hmark hlen hvalue
  all_goals
    rename_i hmark
    split_ifs at h with hgap
    injection h with h
    exact h ▸ .gap (hmark ▸ by constructor) (by simpa using hgap)

theorem Move.of_step (h : s.step f position c = .ok t) : Move f s position c t := by
  unfold step at h
  split at h
  next d hc => exact .of_digit hc h
  next =>
    split_ifs at h with hdot hcolon hascii
    · exact hdot ▸ .of_dot h
    · exact hcolon ▸ .of_colon h

theorem digit?_separator (f : Family) : Numeral.digit? f.separator = none := by
  cases f <;> rfl

theorem step_colon (f : Family) (s : Scan) (position : Nat) : s.step f position ':' = s.colon f := rfl

theorem Move.step_eq (h : Move f s position c t) : s.step f position c = .ok t := by
  cases h with
  | @beginDigits _ _ _ d _ hmark hc =>
    obtain ⟨hdigit, hd⟩ := (Numeral.writes_iff f.radix_le).1 hc
    have hmax : ¬ f.maxDigits ≤ 0 := by cases f <;> decide
    have hbad : ¬ (f.radix ≤ d ∨ f.maxDigits ≤ 0) := not_or.2 ⟨Nat.not_le.2 hd, hmax⟩
    rw [step, hdigit]
    generalize hm : s.mark = mark at hmark
    cases hmark <;> simp only [digit, hm, if_neg hbad, Nat.zero_mul, Nat.zero_add]
  | @extendDigits _ _ _ first count value d _ hmark hcount hc =>
    obtain ⟨hdigit, hd⟩ := (Numeral.writes_iff f.radix_le).1 hc
    have hbad : ¬ (f.radix ≤ d ∨ f.maxDigits ≤ count) := not_or.2 ⟨Nat.not_le.2 hd, Nat.not_le.2 hcount⟩
    simp only [step, hdigit, digit, hmark, if_neg hbad]
  | @close _ _ _ first count value hmark hlen hvalue =>
    rw [step, digit?_separator]
    have hclose : s.close f value f.closedMark = .ok _ := close_eq_ok_iff.2 ⟨hlen, hvalue, rfl⟩
    cases f
    · change s.dot .v4 = _
      simp only [dot, hmark]
      exact hclose
    · change s.colon .v6 = _
      simp only [colon, hmark]
      exact hclose
  | leadingColon hmark => simp only [step_colon, colon, hmark]
  | gap hmark hgap =>
    rw [step_colon]
    generalize hm : s.mark = mark at hmark
    cases hmark <;> simp [colon, hm, hgap]

theorem step_eq_ok_iff : s.step f position c = .ok t ↔ Move f s position c t := ⟨.of_step, Move.step_eq⟩

theorem run_cons_eq_ok_iff {cs : List Char} : s.run f position (c :: cs) = .ok t ↔
    ∃ u, Move f s position c u ∧ u.run f (position + c.utf8Size) cs = .ok t := by
  simp only [run, ← step_eq_ok_iff]
  cases s.step f position c with
  | error e => simp [bind, Except.bind]
  | ok u => simp [bind, Except.bind]

theorem run_append_of_ok {cs : List Char} (h : s.run f position cs = .ok t) (ds : List Char) :
    ∃ later, s.run f position (cs ++ ds) = t.run f later ds :=
  ⟨_, by rw [run_append, h, Except.bind]⟩

theorem run_concat {cs : List Char} {u : Scan} (h : s.run f position cs = .ok t)
    (hmove : ∀ later, Move f t later c u) : s.run f position (cs ++ [c]) = .ok u := by
  obtain ⟨later, hlater⟩ := run_append_of_ok h [c]
  exact hlater.trans (run_cons_eq_ok_iff.2 ⟨u, hmove later, rfl⟩)

theorem foldl_utf8Size (position : Nat) (cs : List Char) :
    cs.foldl (fun p c => p + c.utf8Size) position = position + utf8Len cs := by
  induction cs generalizing position with
  | nil => rfl
  | cons c cs ih =>
    rw [List.foldl_cons, ih, String.utf8Len_cons]
    omega

theorem run_append_singleton (f : Family) (cs : List Char) (c : Char) :
    start.run f 0 (cs ++ [c]) = (start.run f 0 cs).bind fun s => s.step f (utf8Len cs) c := by
  rw [run_append, foldl_utf8Size, Nat.zero_add]
  congr 1
  funext s
  rw [run]
  cases s.step f (utf8Len cs) c <;> rfl

/-- What holds at the start and is kept by every move holds of the text read and the scan that has read it. -/
theorem run_induction {P : List Char → Scan → Prop} (hstart : P [] start)
    (hmove : ∀ {cs s c t}, P cs s → Move f s (utf8Len cs) c t → P (cs ++ [c]) t)
    {cs : List Char} (h : start.run f 0 cs = .ok s) : P cs s := by
  induction cs using List.reverseRecOn generalizing s with
  | nil =>
    injection h with h
    exact h ▸ hstart
  | append_singleton cs c ih =>
    rw [run_append_singleton] at h
    cases hrun : start.run f 0 cs with
    | error e => simp [hrun, Except.bind] at h
    | ok r =>
      rw [hrun] at h
      exact hmove (ih hrun) (step_eq_ok_iff.1 h)

end Scan

end Inet
