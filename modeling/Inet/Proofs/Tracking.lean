import Inet.Proofs.DigitRuns

/-!
What a scan knows of the text behind it. A scan keeps neither the characters nor how many there were, and yet its mark
tells how the text ends, its components count the runs of digits that are closed, and its gap tells whether two colons
stand side by side. So everything that a scan decides can be decided from the text.
-/

namespace Inet

open String (utf8Len)

/-- How a text ends that a scan has read so far, for each mark. -/
inductive Mark.Ends : Family → List Char → Mark → Prop where
  | start {f : Family} : Ends f [] .start
  | digits {f : Family} {cs : List Char} {value : Nat} : closingDigits cs ≠ [] →
    (closingDigits cs).length ≤ f.maxDigits → Numeral.Spells f.radix (closingDigits cs) value →
      Ends f cs (.digits (runStart cs) (closingDigits cs).length value)
  | dot {cs : List Char} : ['.'] <:+ cs → Ends .v4 cs .dot
  | leadingColon : Ends .v6 [':'] .leadingColon
  | colon {cs : List Char} : [':'] <:+ cs → cs ≠ [':'] → ¬ [':', ':'] <:+ cs → Ends .v6 cs .colon
  | gap {cs : List Char} : [':', ':'] <:+ cs → Ends .v6 cs .gap

structure Scan.Tracks (f : Family) (cs : List Char) (s : Scan) : Prop where
  ends : s.mark.Ends f cs
  closed : s.components.length = (digitRuns (beforeClosing cs)).length
  gap : s.gap.isSome ↔ [':', ':'] <:+: cs

variable {f : Family} {cs : List Char} {s t : Scan} {c : Char} {mark : Mark} {e : ParseError}

theorem isHexDigit_of_writes {d : Nat} (h : Numeral.Writes f.radix c d) : isHexDigit c :=
  isHexDigit_iff_digit?.2 ⟨d, ((Numeral.writes_iff f.radix_le).1 h).1⟩

namespace Mark.Ends

variable {first count value : Nat}

theorem digits_inv (h : Ends f cs (.digits first count value)) : closingDigits cs ≠ [] ∧ first = runStart cs ∧
    count = (closingDigits cs).length ∧ Numeral.Spells f.radix (closingDigits cs) value := by
  cases h with
  | digits hne _ hspells => exact ⟨hne, rfl, rfl, hspells⟩

theorem exists_digits (h : mark.Ends f cs) (hne : closingDigits cs ≠ []) :
    ∃ value, mark = .digits (runStart cs) (closingDigits cs).length value ∧
      (closingDigits cs).length ≤ f.maxDigits ∧ Numeral.Spells f.radix (closingDigits cs) value := by
  have hcolon : ¬ isHexDigit ':' := by decide
  cases h with
  | start => exact absurd rfl hne
  | digits _ hlen hspells => exact ⟨_, rfl, hlen, hspells⟩
  | dot h => exact absurd (closingDigits_eq_nil_of_suffix (by decide) h) hne
  | leadingColon => exact absurd rfl hne
  | colon h _ _ => exact absurd (closingDigits_eq_nil_of_suffix hcolon h) hne
  | gap h => exact absurd (closingDigits_eq_nil_of_suffix hcolon ((List.suffix_cons ':' [':']).trans h)) hne

theorem length_closingDigits_le (h : mark.Ends f cs) : (closingDigits cs).length ≤ f.maxDigits := by
  rcases eq_or_ne (closingDigits cs) [] with hnil | hne
  · simp [hnil]
  · obtain ⟨_, _, hlen, _⟩ := h.exists_digits hne
    exact hlen

theorem closingDigits_eq_nil (h : mark.Ends f cs) (hmark : mark.Open ∨ mark.Colon) : closingDigits cs = [] := by
  by_contra hne
  obtain ⟨value, rfl, _⟩ := h.exists_digits hne
  rcases hmark with hmark | hmark <;> cases hmark

theorem colon_suffix (h : mark.Ends f cs) (hmark : mark.Colon) : [':'] <:+ cs := by
  cases h with
  | leadingColon => exact List.suffix_rfl
  | colon h _ _ => exact h
  | gap h => exact (List.suffix_cons ':' [':']).trans h
  | _ => cases hmark

theorem colon_of_suffix (h : mark.Ends f cs) (hcolon : [':'] <:+ cs) : mark.Colon := by
  cases h with
  | start => exact absurd hcolon (by decide)
  | digits hne _ _ => exact absurd (closingDigits_eq_nil_of_suffix (by decide) hcolon) hne
  | dot h =>
    obtain ⟨ds, rfl⟩ := h
    simp at hcolon
  | leadingColon => exact .leadingColon
  | colon _ _ _ => exact .colon
  | gap _ => exact .gap

theorem groups_cases (h : mark.Ends .v6 cs) :
    (cs = [] ∧ mark = .start) ∨ closingDigits cs ≠ [] ∨ ([':'] <:+ cs ∧ mark.Colon) := by
  cases h with
  | start => exact .inl ⟨rfl, rfl⟩
  | digits hne _ _ => exact .inr (.inl hne)
  | leadingColon => exact .inr (.inr ⟨List.suffix_rfl, .leadingColon⟩)
  | colon h _ _ => exact .inr (.inr ⟨h, .colon⟩)
  | gap h => exact .inr (.inr ⟨(List.suffix_cons ':' [':']).trans h, .gap⟩)

theorem quads_cases (h : mark.Ends .v4 cs) :
    (cs = [] ∧ mark = .start) ∨ closingDigits cs ≠ [] ∨ (['.'] <:+ cs ∧ mark = .dot) := by
  cases h with
  | start => exact .inl ⟨rfl, rfl⟩
  | digits hne _ _ => exact .inr (.inl hne)
  | dot h => exact .inr (.inr ⟨h, rfl⟩)

theorem gap_iff (h : mark.Ends f cs) : mark = .gap ↔ [':', ':'] <:+ cs := by
  constructor
  · rintro rfl
    cases h with
    | gap h => exact h
  · intro hpair
    cases h.colon_of_suffix ((List.suffix_cons ':' [':']).trans hpair) with
    | leadingColon =>
      cases h
      exact absurd hpair.length_le (by decide)
    | colon =>
      cases h with
      | colon _ _ h => exact absurd hpair h
    | gap => rfl

theorem ne_leadingColon (h : mark.Ends f cs) (hmark : mark ≠ .leadingColon) : cs ≠ [':'] := by
  rintro rfl
  cases h with
  | digits hne _ _ => exact hne rfl
  | dot h => exact absurd h (by decide)
  | leadingColon => exact hmark rfl
  | colon _ hne _ => exact hne rfl
  | gap h => exact absurd h.length_le (by decide)

end Mark.Ends

namespace Scan

namespace Tracks

theorem digit (h : s.Tracks f cs) (hc : isHexDigit c) (hends : mark.Ends f (cs ++ [c])) :
    Tracks f (cs ++ [c]) { s with mark } where
  ends := hends
  closed := by rw [beforeClosing_concat_digit hc, h.closed]
  gap := by
    have hcolon : c ≠ ':' := ne_of_isHexDigit hc (by decide)
    rw [h.gap, infix_concat_pair_iff, or_iff_right (fun hpair => hcolon hpair.2.symm)]

theorem beginDigits {d : Nat} (h : s.Tracks f cs) (hmark : s.mark.Open) (hc : Numeral.Writes f.radix c d) :
    Tracks f (cs ++ [c]) { s with mark := .digits (utf8Len cs) 1 d } := by
  have hdigit : isHexDigit c := isHexDigit_of_writes hc
  have hnil : closingDigits cs = [] := h.ends.closingDigits_eq_nil (.inl hmark)
  have hclosing : closingDigits (cs ++ [c]) = [c] := by rw [closingDigits_concat_digit hdigit, hnil, List.nil_append]
  have hstart : runStart (cs ++ [c]) = utf8Len cs := by rw [runStart_concat_digit hdigit, runStart_of_nil hnil]
  have hspells : Numeral.Spells f.radix [c] d := by simpa using Numeral.Spells.nil.snoc hc
  have hmax : [c].length ≤ f.maxDigits := by cases f <;> simp [Family.maxDigits]
  rw [← hclosing] at hspells hmax
  have hends := Mark.Ends.digits (by simp [hclosing]) hmax hspells
  rw [hstart, hclosing] at hends
  exact h.digit hdigit hends

theorem extendDigits {first count value d : Nat} (h : s.Tracks f cs) (hmark : s.mark = .digits first count value)
    (hcount : count < f.maxDigits) (hc : Numeral.Writes f.radix c d) :
    Tracks f (cs ++ [c]) { s with mark := .digits first (count + 1) (value * f.radix + d) } := by
  have hdigit : isHexDigit c := isHexDigit_of_writes hc
  obtain ⟨_, rfl, rfl, hspells⟩ := (hmark ▸ h.ends).digits_inv
  have hclosing : closingDigits (cs ++ [c]) = closingDigits cs ++ [c] := closingDigits_concat_digit hdigit
  have hlen : (closingDigits (cs ++ [c])).length = (closingDigits cs).length + 1 := by simp [hclosing]
  have hsnoc := hspells.snoc hc
  rw [← hclosing] at hsnoc
  have hends := Mark.Ends.digits (by simp [hclosing]) (by omega) hsnoc
  rw [hlen, runStart_concat_digit hdigit] at hends
  exact h.digit hdigit hends

theorem close {value : Nat} (h : s.Tracks f cs) (hne : closingDigits cs ≠ []) :
    Tracks f (cs ++ [f.separator]) { s with components := s.components ++ [value], mark := f.closedMark } := by
  have hsep : ¬ isHexDigit f.separator := by cases f <;> decide
  have hcolon : ¬ [':'] <:+ cs := not_suffix_of_closing (by decide) hne
  refine ⟨?_, ?_, ?_⟩
  · cases f with
    | v4 => exact .dot (List.suffix_append _ _)
    | v6 =>
      refine .colon (List.suffix_append _ _) (by simpa [Family.separator] using ne_nil_of_closing hne) ?_
      exact fun hpair => hcolon (suffix_concat_pair_iff.1 hpair).1
  · rw [beforeClosing_concat_other hsep, digitRuns_concat_other hsep, digitRuns_of_closing hne, List.length_append,
      List.length_append, h.closed]
    rfl
  · rw [h.gap, infix_concat_pair_iff, or_iff_right (fun hpair => hcolon hpair.1)]

theorem leadingColon (h : s.Tracks .v6 cs) (hmark : s.mark = .start) :
    Tracks .v6 (cs ++ [':']) { s with mark := .leadingColon } := by
  have hnil : cs = [] := by
    have hends := hmark ▸ h.ends
    cases hends
    rfl
  subst hnil
  exact ⟨.leadingColon, h.closed, h.gap.trans (by simp [List.infix_cons_iff])⟩

theorem openGap (h : s.Tracks .v6 cs) (hmark : s.mark.Colon) :
    Tracks .v6 (cs ++ [':']) { s with gap := some s.components.length, mark := .gap } := by
  have hcolon : ¬ isHexDigit ':' := by decide
  have hpair : [':', ':'] <:+ cs ++ [':'] := suffix_concat_pair_iff.2 ⟨h.ends.colon_suffix hmark, rfl⟩
  refine ⟨.gap hpair, ?_, by simpa using hpair.isInfix⟩
  rw [beforeClosing_concat_other hcolon, digitRuns_concat_other hcolon,
    digitRuns_of_nil (h.ends.closingDigits_eq_nil (.inr hmark)), h.closed]

theorem move (h : s.Tracks f cs) (hmove : Move f s (utf8Len cs) c t) : t.Tracks f (cs ++ [c]) := by
  cases hmove with
  | beginDigits hmark hc => exact h.beginDigits hmark hc
  | extendDigits hmark hcount hc => exact h.extendDigits hmark hcount hc
  | close hmark _ _ => exact h.close (hmark ▸ h.ends).digits_inv.1
  | leadingColon hmark => exact h.leadingColon hmark
  | gap hmark _ => exact h.openGap hmark

end Tracks

theorem tracks_of_run (h : start.run f 0 cs = .ok s) : s.Tracks f cs :=
  run_induction ⟨.start, rfl, by simp [start]⟩ Tracks.move h

namespace Tracks

theorem length_digitRuns (h : s.Tracks f cs) (hne : closingDigits cs ≠ []) :
    (digitRuns cs).length = s.components.length + 1 := by
  rw [digitRuns_of_closing hne, List.length_append, h.closed]
  rfl

theorem digit_eq_error_iff {d : Nat} (h : s.Tracks f cs) : s.digit f (utf8Len cs) d = .error e ↔
    (cs = [':'] ∧ e = .malformed f) ∨ (cs ≠ [':'] ∧
      (f.radix ≤ d ∨ f.maxDigits ≤ (closingDigits cs).length) ∧ e = .invalidComponent (runStart cs)) := by
  have hends := h.ends
  unfold Scan.digit
  split
  next first count value hmark =>
    rw [hmark] at hends
    obtain ⟨_, rfl, rfl, _⟩ := hends.digits_inv
    have hcs : cs ≠ [':'] := hends.ne_leadingColon nofun
    dsimp only
    split_ifs with hbad <;> simp [hcs, hbad, eq_comm]
  next hmark =>
    rw [hmark] at hends
    cases hends
    simp [eq_comm]
  -- At every other mark the digit begins a run, so that it may be of another base but not one too many.
  all_goals
    rename_i hmark
    rw [hmark] at hends
    have hcs : cs ≠ [':'] := hends.ne_leadingColon nofun
    have hnil : closingDigits cs = [] := hends.closingDigits_eq_nil (.inl (by constructor))
    rw [runStart_of_nil hnil, hnil]
    dsimp only
    split_ifs with hbad <;> simp_all [eq_comm]

theorem close_eq_error_iff {value : Nat} (h : s.Tracks f cs) (hne : closingDigits cs ≠ [])
    (hroom : s.components.length ≤ f.componentCount) : s.close f value mark = .error e ↔
      ((digitRuns cs).length = f.componentCount + 1 ∧ e = .componentCount f (f.componentCount + 1)) ∨
        ((digitRuns cs).length ≠ f.componentCount + 1 ∧ f.componentBase ≤ value ∧ e = .octetOverflow value) := by
  have hruns := h.length_digitRuns hne
  unfold Scan.close
  split_ifs with hfull hvalue
  · have hlen : s.components.length = f.componentCount := hroom.antisymm hfull
    rw [hlen] at hruns
    simp [hlen, hruns, eq_comm]
  · have hlen : (digitRuns cs).length ≠ f.componentCount + 1 := by omega
    simp [hlen, hvalue, eq_comm]
  · have hlen : (digitRuns cs).length ≠ f.componentCount + 1 := by omega
    simp [hlen, hvalue]

end Tracks

theorem expand_eq_error_iff : t.expand f = .error e ↔
    t.gap = none ∧ t.components.length < f.componentCount ∧ e = .componentCount f t.components.length := by
  unfold expand
  dsimp only
  split
  next place hgap => simp [hgap]
  next hgap =>
    split_ifs with hmissing
    · simp [Nat.sub_eq_zero_iff_le.1 hmissing]
    · have hlen : t.components.length < f.componentCount := by omega
      simp [hgap, hlen, eq_comm]

def EndError (f : Family) (s : Scan) (e : ParseError) : Prop :=
  s.finish f = .error e ∨ ∃ t, s.finish f = .ok t ∧ t.expand f = .error e

theorem endError_digits_iff {first count value : Nat} (hmark : s.mark = .digits first count value) :
    s.EndError f e ↔ s.close f value s.mark = .error e ∨ (value < f.componentBase ∧ s.gap = none ∧
      s.components.length + 1 < f.componentCount ∧ e = .componentCount f (s.components.length + 1)) := by
  have hfinish : s.finish f = s.close f value s.mark := by simp only [finish, hmark]
  rw [EndError, hfinish]
  simp only [close_eq_ok_iff, expand_eq_error_iff]
  constructor
  · rintro (herror | ⟨t, ⟨_, hvalue, rfl⟩, hgap, hlen, he⟩)
    · exact .inl herror
    · rw [List.length_append, List.length_singleton] at hlen he
      exact .inr ⟨hvalue, hgap, hlen, he⟩
  · rintro (herror | ⟨hvalue, hgap, hlen, he⟩)
    · exact .inl herror
    · refine .inr ⟨_, ⟨Nat.lt_of_succ_lt hlen, hvalue, rfl⟩, hgap, ?_, ?_⟩
      · rwa [List.length_append, List.length_singleton]
      · rwa [List.length_append, List.length_singleton]

theorem endError_iff_of_error {e' : ParseError} (h : s.finish f = .error e') : s.EndError f e ↔ e = e' := by
  simp [EndError, h, eq_comm]

end Scan

end Inet
