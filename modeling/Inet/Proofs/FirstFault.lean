import Mathlib.Data.List.TakeWhile
import Inet.Proofs.Recognition

/-!
The first fault of a text. Both readers take the hexadecimal digits in front, unless these are too many or of another
base, and both refuse in the same words whatever comes next, unless it is a separator. A text that is not empty gets no
error that complains of missing parts.
-/

namespace Inet

variable {f : Family} {text : String} {e : ParseError}

/-- The error blames something that stands in a text of the family. -/
def ParseError.BlamesText (f : Family) (e : ParseError) : Prop :=
  e ≠ .unknownFamily ∧ e ≠ .missingAddress ∧ ∀ g, e = .malformed g → g = f

namespace Scan

variable {s t : Scan} {position : Nat} {c : Char} {cs : List Char}

theorem blamesText_of_close {value : Nat} {mark : Mark} (h : s.close f value mark = .error e) : e.BlamesText f := by
  grind [close, ParseError.BlamesText]

theorem blamesText_of_digit {d : Nat} (h : s.digit f position d = .error e) : e.BlamesText f := by
  grind [digit, ParseError.BlamesText]

theorem blamesText_of_dot (h : s.dot f = .error e) : e.BlamesText f := by
  unfold dot at h
  split at h
  next => exact blamesText_of_close h
  next => grind [ParseError.BlamesText]

theorem blamesText_of_colon (h : s.colon f = .error e) : e.BlamesText f := by
  unfold colon at h
  split at h
  case h_4 => exact blamesText_of_close h
  all_goals grind [ParseError.BlamesText]

theorem blamesText_of_step (h : s.step f position c = .error e) : e.BlamesText f := by
  grind [step, blamesText_of_digit, blamesText_of_dot, blamesText_of_colon, ParseError.BlamesText]

theorem blamesText_of_run (h : s.run f position cs = .error e) : e.BlamesText f := by
  induction cs generalizing s position with
  | nil => cases h
  | cons c cs ih =>
    rw [run] at h
    cases hstep : s.step f position c with
    | error e' =>
      rw [hstep] at h
      injection h with h
      exact h ▸ blamesText_of_step hstep
    | ok t =>
      rw [hstep] at h
      exact ih h

theorem eq_nil_of_run_start (h : start.run f 0 cs = .ok s) (hmark : s.mark = .start) : cs = [] := by
  have hkey : s.mark = .start → cs = [] := by
    refine run_induction (P := fun cs s => s.mark = .start → cs = []) (fun _ => rfl) ?_ h
    intro cs s c t _ hmove hmark
    cases hmove with
    | close _ _ _ => cases f <;> cases hmark
    | _ => cases hmark
  exact hkey hmark

theorem blamesText_of_finish (h : s.finish f = .error e) : e.BlamesText f ∨ s.mark = .start := by
  unfold finish at h
  split at h
  next hmark => exact .inr hmark
  next => exact .inl (blamesText_of_close h)
  all_goals grind [ParseError.BlamesText]

theorem blamesText_of_expand (h : s.expand f = .error e) : e.BlamesText f := by
  grind [expand, ParseError.BlamesText]

end Scan

namespace Address

theorem parse_eq_error_iff_scan : Address.parse f text = .error e ↔
    Scan.start.run f 0 text.toList = .error e ∨ ∃ s, Scan.start.run f 0 text.toList = .ok s ∧
      (s.finish f = .error e ∨ ∃ t, s.finish f = .ok t ∧ t.expand f = .error e) := by
  unfold Address.parse
  cases hrun : Scan.start.run f 0 text.toList with
  | error e' => simp [bind, Except.bind]
  | ok s =>
    cases hfinish : s.finish f with
    | error e' => simp [hfinish, bind, Except.bind]
    | ok t => cases hexpand : t.expand f <;> simp [hfinish, hexpand, bind, Except.bind, pure, Except.pure]

theorem parse_of_run_error (h : Scan.start.run f 0 text.toList = .error e) : Address.parse f text = .error e :=
  parse_eq_error_iff_scan.2 (.inl h)

theorem blamesText_of_parse (h : Address.parse f text = .error e) (hne : text ≠ "") : e.BlamesText f := by
  obtain hrun | ⟨s, hrun, hfinish | ⟨t, -, hexpand⟩⟩ := parse_eq_error_iff_scan.1 h
  · exact Scan.blamesText_of_run hrun
  · rcases Scan.blamesText_of_finish hfinish with hblames | hmark
    · exact hblames
    · have hnil : text.toList = [] := Scan.eq_nil_of_run_start hrun hmark
      exact absurd (String.toList_eq_nil_iff.1 hnil) hne
  · exact Scan.blamesText_of_expand hexpand

end Address

def isHexDigit (c : Char) : Bool := ('0' ≤ c ∧ c ≤ '9') ∨ ('a' ≤ c ∧ c ≤ 'f') ∨ ('A' ≤ c ∧ c ≤ 'F')

def openingDigits (text : String) : List Char := text.toList.takeWhile isHexDigit

/-- The characters are digits of the family, and no more of them than one component may have. -/
def Family.Opens (f : Family) (cs : List Char) : Prop := cs.length ≤ f.maxDigits ∧ ∃ n, Numeral.Spells f.radix cs n

def strayFault (c : Char) (position : Nat) : ParseError :=
  if c.toNat < 128 then .unexpectedCharacter c position else .nonAscii position

theorem strayFault_ne {c : Char} {position first : Nat} : strayFault c position ≠ .invalidComponent first := by
  unfold strayFault
  split_ifs <;> simp

theorem isHexDigit_iff_digit? {c : Char} : isHexDigit c ↔ ∃ d, Numeral.digit? c = some d := by
  unfold isHexDigit Numeral.digit?
  split_ifs <;> simp_all

theorem isHexDigit_iff_writes {c : Char} : isHexDigit c ↔ ∃ d, Numeral.Writes 16 c d := by
  simp only [isHexDigit_iff_digit?, Numeral.digit?_eq_some_iff]

theorem digit?_eq_none_iff {c : Char} : Numeral.digit? c = none ↔ ¬ isHexDigit c := by
  rw [isHexDigit_iff_digit?, not_exists, Option.eq_none_iff_forall_ne_some]

theorem isHexDigit_of_mem_openingDigits {c : Char} (h : c ∈ openingDigits text) : isHexDigit c :=
  List.mem_takeWhile_imp h

theorem digit?_of_mem_openingDigits {c : Char} (h : c ∈ openingDigits text) : ∃ d, Numeral.digit? c = some d :=
  isHexDigit_iff_digit?.1 (isHexDigit_of_mem_openingDigits h)

theorem digit?_after_openingDigits {c : Char} {cs : List Char} (h : text.toList = openingDigits text ++ c :: cs) :
    Numeral.digit? c = none := by
  rw [digit?_eq_none_iff]
  intro hdigit
  have hself : (openingDigits text ++ c :: cs).takeWhile isHexDigit = openingDigits text := by
    rw [← h]
    rfl
  rw [List.takeWhile_append_of_pos fun _ => isHexDigit_of_mem_openingDigits, List.append_right_eq_self,
    List.takeWhile_cons_of_pos hdigit] at hself
  cases hself

theorem openingDigits_append (text : String) : ∃ cs, text.toList = openingDigits text ++ cs :=
  ⟨_, (List.takeWhile_append_dropWhile).symm⟩

theorem exists_spells_cons {base d : Nat} {c : Char} {cs : List Char} (hc : Numeral.Writes base c d)
    (hcs : ∃ n, Numeral.Spells base cs n) : ∃ n, Numeral.Spells base (c :: cs) n := by
  obtain ⟨_, ds, hds, _⟩ := hcs
  exact ⟨_, d :: ds, .cons hc hds, rfl⟩

theorem exists_spells_sixteen {cs : List Char} (h : ∀ c ∈ cs, ∃ d, Numeral.digit? c = some d) :
    ∃ n, Numeral.Spells 16 cs n := by
  induction cs with
  | nil => exact ⟨0, .nil⟩
  | cons c cs ih =>
    rw [List.forall_mem_cons] at h
    obtain ⟨d, hd⟩ := h.1
    exact exists_spells_cons (Numeral.digit?_eq_some_iff.1 hd) (ih h.2)

theorem v6_opens_iff : Family.v6.Opens (openingDigits text) ↔ (openingDigits text).length ≤ 4 :=
  and_iff_left (exists_spells_sixteen fun _ => digit?_of_mem_openingDigits)

theorem Family.Opens.length_le {cs : List Char} (h : f.Opens cs) : cs.length ≤ 4 := by
  have hmax : f.maxDigits ≤ 4 := by cases f <;> decide
  exact h.1.trans hmax

namespace Scan

variable {s : Scan} {position first count value d : Nat} {c : Char} {cs : List Char}

theorem run_of_opens (h : f.Opens cs) : ∃ s, start.run f 0 cs = .ok s := by
  obtain ⟨hlen, _, ds, hds, _⟩ := h
  cases hds with
  | nil => exact ⟨start, rfl⟩
  | @cons c d cs ds hc hds =>
    rw [List.length_cons, Nat.add_comm] at hlen
    exact ⟨_, run_cons_eq_ok_iff.2 ⟨_, .beginDigits .start hc, run_digits hds rfl hlen⟩⟩

theorem step_of_digit (hc : Numeral.digit? c = some d) : s.step f position c = s.digit f position d := by
  rw [step, hc]

theorem run_excess (hcs : ∀ c ∈ cs, ∃ d, Numeral.digit? c = some d) (hmark : s.mark = .digits first count value)
    (hcount : count ≤ f.maxDigits) (h : ¬ (count + cs.length ≤ f.maxDigits ∧ ∃ n, Numeral.Spells f.radix cs n)) :
    s.run f position cs = .error (.invalidComponent first) := by
  induction cs generalizing s position count value with
  | nil => exact absurd ⟨hcount, 0, .nil⟩ h
  | cons c cs ih =>
    rw [List.forall_mem_cons] at hcs
    obtain ⟨⟨d, hd⟩, hcs⟩ := hcs
    have hstep : s.step f position c = if f.radix ≤ d ∨ f.maxDigits ≤ count then .error (.invalidComponent first)
        else .ok { s with mark := .digits first (count + 1) (value * f.radix + d) } := by
      rw [step_of_digit hd, digit, hmark]
    rw [run, hstep]
    split_ifs with hbad
    · rfl
    · rw [not_or, Nat.not_le, Nat.not_le] at hbad
      refine ih hcs rfl hbad.2 ?_
      rintro ⟨hlen, hspells⟩
      refine h ⟨?_, exists_spells_cons ((Numeral.writes_iff f.radix_le).2 ⟨hd, hbad.1⟩) hspells⟩
      rw [List.length_cons]
      omega

theorem run_of_not_opens (hcs : ∀ c ∈ cs, ∃ d, Numeral.digit? c = some d) (h : ¬ f.Opens cs) :
    start.run f 0 cs = .error (.invalidComponent 0) := by
  cases cs with
  | nil => exact absurd ⟨Nat.zero_le _, 0, .nil⟩ h
  | cons c cs =>
    rw [List.forall_mem_cons] at hcs
    obtain ⟨⟨d, hd⟩, hcs⟩ := hcs
    have hstep : start.step f 0 c = if f.radix ≤ d then .error (.invalidComponent 0)
        else .ok { start with mark := .digits 0 1 d } := by
      rw [step_of_digit hd]
      cases f <;> simp [digit, start, Family.maxDigits]
    rw [run, hstep]
    split_ifs with hbad
    · rfl
    · refine run_excess hcs rfl (by cases f <;> decide) ?_
      rintro ⟨hlen, hspells⟩
      refine h ⟨?_, exists_spells_cons ((Numeral.writes_iff f.radix_le).2 ⟨hd, Nat.lt_of_not_le hbad⟩) hspells⟩
      rw [List.length_cons]
      omega

theorem step_stray (hc : Numeral.digit? c = none) (hdot : c ≠ '.') (hcolon : c ≠ ':') :
    s.step f position c = .error (strayFault c position) := by
  rw [step, hc]
  simp only [if_neg hdot, if_neg hcolon, strayFault, apply_ite Except.error]

end Scan

namespace Address

theorem parse_of_not_opens (h : ¬ f.Opens (openingDigits text)) :
    Address.parse f text = .error (.invalidComponent 0) := by
  obtain ⟨cs, htext⟩ := openingDigits_append text
  have hrun := Scan.run_of_not_opens (fun _ => digit?_of_mem_openingDigits) h
  apply parse_of_run_error
  rw [htext, Scan.run_append, hrun]
  rfl

theorem parse_of_refused {c : Char} {cs : List Char} (h : f.Opens (openingDigits text))
    (htext : text.toList = openingDigits text ++ c :: cs)
    (hstep : ∀ s : Scan, s.step f ((openingDigits text).foldl (fun p c => p + c.utf8Size) 0) c = .error e) :
    Address.parse f text = .error e := by
  obtain ⟨s, hrun⟩ := Scan.run_of_opens h
  apply parse_of_run_error
  rw [htext, Scan.run_append, hrun, Except.bind, Scan.run, hstep]
  rfl

variable {c : Char} {cs : List Char}

theorem parse_of_stray (h : f.Opens (openingDigits text)) (htext : text.toList = openingDigits text ++ c :: cs)
    (hdot : c ≠ '.') (hcolon : c ≠ ':') :
    Address.parse f text = .error (strayFault c ((openingDigits text).foldl (fun p c => p + c.utf8Size) 0)) :=
  parse_of_refused h htext fun _ => Scan.step_stray (digit?_after_openingDigits htext) hdot hcolon

theorem parse_v6_of_dot (h : Family.v6.Opens (openingDigits text))
    (htext : text.toList = openingDigits text ++ '.' :: cs) : Address.parse .v6 text = .error (.malformed .v6) :=
  parse_of_refused h htext fun _ => rfl

theorem exists_same_error_of_long (h : 4 < (openingDigits text).length) : ∃ e, ∀ f, Address.parse f text = .error e :=
  ⟨_, fun _ => parse_of_not_opens fun hopens => absurd hopens.length_le (Nat.not_le.2 h)⟩

/-- Both families raise one error where the digits in front are too many for either, or else suit either and are
followed by a character that neither uses. -/
theorem same_error_iff (htext : text.toList = openingDigits text ++ c :: cs) (hcolon : c ≠ ':') :
    (∃ e, ∀ f, Address.parse f text = .error e) ↔
      4 < (openingDigits text).length ∨ (c ≠ '.' ∧ Family.v4.Opens (openingDigits text)) := by
  constructor
  · rintro ⟨e, herror⟩
    by_contra hnot
    rw [not_or, Nat.not_lt] at hnot
    obtain ⟨hshort, hnot⟩ := hnot
    have hopens : Family.v6.Opens (openingDigits text) := v6_opens_iff.2 hshort
    rcases eq_or_ne c '.' with rfl | hdot
    · have hmalformed : e = .malformed .v6 := Except.error.inj ((herror .v6).symm.trans (parse_v6_of_dot hopens htext))
      have hne : text ≠ "" := by
        rintro rfl
        simp at htext
      cases (blamesText_of_parse (herror .v4) hne).2.2 .v6 hmalformed
    · have hexcess : Address.parse .v4 text = .error (.invalidComponent 0) := parse_of_not_opens fun h => hnot ⟨hdot, h⟩
      have hstray := parse_of_stray hopens htext hdot hcolon
      have hinvalid : e = .invalidComponent 0 := Except.error.inj ((herror .v4).symm.trans hexcess)
      rw [herror .v6, hinvalid] at hstray
      exact strayFault_ne (Except.error.inj hstray).symm
  · rintro (hlong | ⟨hdot, hopens⟩)
    · exact exists_same_error_of_long hlong
    · refine ⟨_, fun f => parse_of_stray ?_ htext hdot hcolon⟩
      cases f with
      | v4 => exact hopens
      | v6 => exact v6_opens_iff.2 (hopens.1.trans (by decide))

end Address

end Inet
