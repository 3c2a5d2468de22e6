import Inet.Proofs.Diagnosis

/-!
What is wrong with a v4 text. As for v6 the rules speak of the text alone. Letters count as digits until they are
judged, so a fault of digits is placed where the run of hexadecimal digits begins; and an octet is judged when it is
closed, after all of its digits, and then by its place before its value.
-/

namespace Inet

open String (utf8Len)

inductive OctetFault (cs : List Char) : ParseError → Prop where
  | fifth : (digitRuns cs).length = 5 → OctetFault cs (.componentCount .v4 5)
  | overflow {value : Nat} : (digitRuns cs).length ≠ 5 → Numeral.Spells 10 (closingDigits cs) value → 255 < value →
    OctetFault cs (.octetOverflow value)

/-- What is wrong with a character of a v4 text, judged by the text before it. -/
inductive QuadFault (before : List Char) (c : Char) : ParseError → Prop where
  | stray : ¬ isHexDigit c → c ≠ '.' → c ≠ ':' → QuadFault before c (strayFault c (utf8Len before))
  | colon : c = ':' → QuadFault before c (.malformed .v4)
  | letter : isHexDigit c → ¬ c.isDigit → QuadFault before c (.invalidComponent (runStart before))
  | fourthDigit : c.isDigit → (before.rtakeWhile Char.isDigit).length = 3 →
    QuadFault before c (.invalidComponent (runStart before))
  | emptyOctet : c = '.' → before = [] ∨ ['.'] <:+ before → QuadFault before c (.malformed .v4)
  | octet {e : ParseError} : c = '.' → closingDigits before ≠ [] → OctetFault before e → QuadFault before c e

inductive QuadEndFault (cs : List Char) : ParseError → Prop where
  | missing : cs = [] → QuadEndFault cs .missingAddress
  | emptyOctet : ['.'] <:+ cs → QuadEndFault cs (.malformed .v4)
  | octet {e : ParseError} : cs ≠ [] → ¬ ['.'] <:+ cs → OctetFault cs e → QuadEndFault cs e
  | fewOctets : cs ≠ [] → ¬ ['.'] <:+ cs → (∀ e, ¬ OctetFault cs e) → (digitRuns cs).length < 4 →
    QuadEndFault cs (.componentCount .v4 (digitRuns cs).length)

def quadRules : FaultRules := ⟨QuadFault, QuadEndFault⟩

variable {cs : List Char} {s : Scan} {c : Char} {e : ParseError}

theorem octetFault_iff {value : Nat} (hspells : Numeral.Spells 10 (closingDigits cs) value) : OctetFault cs e ↔
    ((digitRuns cs).length = 5 ∧ e = .componentCount .v4 5) ∨
      ((digitRuns cs).length ≠ 5 ∧ 256 ≤ value ∧ e = .octetOverflow value) := by
  constructor
  · intro h
    cases h with
    | fifth h => exact .inl ⟨h, rfl⟩
    | overflow hlen hspells' hvalue =>
      cases hspells.unique (by decide) hspells'
      exact .inr ⟨hlen, hvalue, rfl⟩
  · rintro (⟨h, rfl⟩ | ⟨hlen, hvalue, rfl⟩)
    · exact .fifth h
    · exact .overflow hlen hspells hvalue

theorem forall_not_octetFault_iff {value : Nat} (hspells : Numeral.Spells 10 (closingDigits cs) value) :
    (∀ e, ¬ OctetFault cs e) ↔ (digitRuns cs).length ≠ 5 ∧ value < 256 := by
  constructor
  · intro h
    have hlen : (digitRuns cs).length ≠ 5 := fun hlen => h _ (.fifth hlen)
    refine ⟨hlen, ?_⟩
    by_contra hvalue
    exact h _ (.overflow hlen hspells (Nat.not_lt.1 hvalue))
  · rintro ⟨hlen, hvalue⟩ e h
    rcases (octetFault_iff hspells).1 h with ⟨hfifth, _⟩ | ⟨_, hlarge, _⟩
    · exact hlen hfifth
    · exact Nat.not_le.2 hvalue hlarge

theorem quadFault_digit_iff (hc : isHexDigit c) : QuadFault cs c e ↔
    (¬ c.isDigit ∨ (c.isDigit ∧ (cs.rtakeWhile Char.isDigit).length = 3)) ∧ e = .invalidComponent (runStart cs) := by
  have hdot : c ≠ '.' := ne_of_isHexDigit hc (by decide)
  have hcolon : c ≠ ':' := ne_of_isHexDigit hc (by decide)
  constructor
  · intro h
    cases h with
    | stray h _ _ => exact absurd hc h
    | colon h => exact absurd h hcolon
    | letter _ h => exact ⟨.inl h, rfl⟩
    | fourthDigit h hlen => exact ⟨.inr ⟨h, hlen⟩, rfl⟩
    | emptyOctet h _ => exact absurd h hdot
    | octet h _ _ => exact absurd h hdot
  · rintro ⟨h | ⟨h, hlen⟩, rfl⟩
    · exact .letter hc h
    · exact .fourthDigit h hlen

theorem quadFault_dot_iff : QuadFault cs '.' e ↔
    ((cs = [] ∨ ['.'] <:+ cs) ∧ e = .malformed .v4) ∨ (closingDigits cs ≠ [] ∧ OctetFault cs e) := by
  constructor
  · intro h
    cases h with
    | stray _ h _ => exact absurd rfl h
    | colon h => cases h
    | letter h _ => exact absurd h (by decide)
    | fourthDigit h _ => exact absurd h (by decide)
    | emptyOctet _ h => exact .inl ⟨h, rfl⟩
    | octet _ hne h => exact .inr ⟨hne, h⟩
  · rintro (⟨h, rfl⟩ | ⟨hne, h⟩)
    · exact .emptyOctet rfl h
    · exact .octet rfl hne h

theorem quadFault_other_iff (hdigit : ¬ isHexDigit c) (hdot : c ≠ '.') : QuadFault cs c e ↔
    e = if c = ':' then .malformed .v4 else strayFault c (utf8Len cs) := by
  constructor
  · intro h
    cases h with
    | stray _ _ hcolon => rw [if_neg hcolon]
    | colon h => rw [if_pos h]
    | letter h _ => exact absurd h hdigit
    | fourthDigit h _ => exact absurd (isHexDigit_of_isDigit h) hdigit
    | emptyOctet h _ => exact absurd h hdot
    | octet h _ _ => exact absurd h hdot
  · rintro rfl
    split_ifs with hcolon
    · exact .colon hcolon
    · exact .stray hdigit hdot hcolon

theorem quadEndFault_digits_iff (hne : closingDigits cs ≠ []) : QuadEndFault cs e ↔
    OctetFault cs e ∨ ((∀ e, ¬ OctetFault cs e) ∧ (digitRuns cs).length < 4 ∧
      e = .componentCount .v4 (digitRuns cs).length) := by
  have hcs : cs ≠ [] := ne_nil_of_closing hne
  have hdot : ¬ ['.'] <:+ cs := not_suffix_of_closing (by decide) hne
  constructor
  · intro h
    cases h with
    | missing h => exact absurd h hcs
    | emptyOctet h => exact absurd h hdot
    | octet _ _ h => exact .inl h
    | fewOctets _ _ hnone h => exact .inr ⟨hnone, h, rfl⟩
  · rintro (h | ⟨hnone, h, rfl⟩)
    · exact .octet hcs hdot h
    · exact .fewOctets hcs hdot hnone h

theorem quadEndFault_nil_iff : QuadEndFault [] e ↔ e = .missingAddress := by
  constructor
  · intro h
    cases h with
    | missing _ => rfl
    | emptyOctet h => exact absurd h (by decide)
    | octet h _ _ => exact absurd rfl h
    | fewOctets h _ _ _ => exact absurd rfl h
  · rintro rfl
    exact .missing rfl

theorem quadEndFault_dot_iff (hdot : ['.'] <:+ cs) : QuadEndFault cs e ↔ e = .malformed .v4 := by
  constructor
  · intro h
    cases h with
    | missing h => exact absurd (h ▸ hdot) (by decide)
    | emptyOctet _ => rfl
    | octet _ h _ => exact absurd hdot h
    | fewOctets _ h _ _ => exact absurd hdot h
  · rintro rfl
    exact .emptyOctet hdot

namespace Scan

theorem gap_eq_none_of_run (h : start.run .v4 0 cs = .ok s) : s.gap = none := by
  cases reads_of_run h
  rfl

namespace Tracks

theorem close_octet_eq_error_iff {value : Nat} {mark : Mark} (h : s.Tracks .v4 cs) (hne : closingDigits cs ≠ [])
    (hspells : Numeral.Spells 10 (closingDigits cs) value) (hroom : s.components.length ≤ 4) :
    s.close .v4 value mark = .error e ↔ OctetFault cs e := by
  rw [h.close_eq_error_iff hne hroom, octetFault_iff hspells]
  rfl

theorem dot_eq_error_iff (h : s.Tracks .v4 cs) (hroom : s.components.length ≤ 4) :
    s.dot .v4 = .error e ↔ QuadFault cs '.' e := by
  rw [quadFault_dot_iff]
  rcases h.ends.quads_cases with ⟨rfl, hmark⟩ | hne | ⟨hdot, hmark⟩
  · simp [Scan.dot, hmark, closingDigits, eq_comm]
  · obtain ⟨value, hmark, _, hspells⟩ := h.ends.exists_digits hne
    have hcs : cs ≠ [] := ne_nil_of_closing hne
    have hdot : ¬ ['.'] <:+ cs := not_suffix_of_closing (by decide) hne
    have hclose : s.dot .v4 = s.close .v4 value .dot := by simp only [Scan.dot, hmark]
    rw [hclose, h.close_octet_eq_error_iff hne hspells hroom]
    simp [hne, hdot, hcs]
  · have hnil : closingDigits cs = [] := closingDigits_eq_nil_of_suffix (by decide) hdot
    simp [Scan.dot, hmark, hnil, hdot, eq_comm]

theorem isDigit_of_mem_closingDigits (h : s.Tracks .v4 cs) : ∀ c ∈ closingDigits cs, c.isDigit := by
  intro c hc
  obtain ⟨value, _, _, hspells⟩ := h.ends.exists_digits (List.ne_nil_of_mem hc)
  obtain ⟨d, hd⟩ := hspells.writes_of_mem hc
  exact (Numeral.writes_ten_iff.1 hd).1

theorem digit_octet_eq_error_iff {d : Nat} (h : s.Tracks .v4 cs) (hc : Numeral.digit? c = some d) :
    s.digit .v4 (utf8Len cs) d = .error e ↔ QuadFault cs c e := by
  have hcs : cs ≠ [':'] := by
    rintro rfl
    rcases h.ends.quads_cases with ⟨hnil, _⟩ | hne | ⟨hdot, _⟩
    · cases hnil
    · exact hne rfl
    · exact absurd hdot (by decide)
  have hlen : (closingDigits cs).length ≤ 3 := h.ends.length_closingDigits_le
  have hdecimal : c.isDigit ↔ d < 10 := isDigit_iff_of_digit? hc
  have hbad : Family.v4.radix ≤ d ∨ Family.v4.maxDigits ≤ (closingDigits cs).length ↔
      ¬ c.isDigit ∨ (c.isDigit ∧ (closingDigits cs).length = 3) := by
    simp only [hdecimal, Family.radix, Family.maxDigits]
    omega
  rw [h.digit_eq_error_iff, hbad, quadFault_digit_iff (isHexDigit_iff_digit?.2 ⟨d, hc⟩),
    rtakeWhile_isDigit h.isDigit_of_mem_closingDigits]
  simp [hcs]

theorem endError_octets_iff (h : s.Tracks .v4 cs) (hroom : s.components.length ≤ 4) (hgap : s.gap = none) :
    s.EndError .v4 e ↔ QuadEndFault cs e := by
  rcases h.ends.quads_cases with ⟨rfl, hmark⟩ | hne | ⟨hdot, hmark⟩
  · have hfinish : s.finish .v4 = .error .missingAddress := by simp only [Scan.finish, hmark]
    rw [endError_iff_of_error hfinish, quadEndFault_nil_iff]
  · obtain ⟨value, hmark, _, hspells⟩ := h.ends.exists_digits hne
    rw [endError_digits_iff hmark, h.close_octet_eq_error_iff hne hspells hroom, quadEndFault_digits_iff hne,
      ← h.length_digitRuns hne]
    refine or_congr_right ?_
    rw [forall_not_octetFault_iff hspells]
    constructor
    · rintro ⟨hvalue, _, hlen, he⟩
      exact ⟨⟨(Nat.lt_succ_of_lt hlen).ne, hvalue⟩, hlen, he⟩
    · rintro ⟨⟨_, hvalue⟩, hlen, he⟩
      exact ⟨hvalue, hgap, hlen, he⟩
  · have hfinish : s.finish .v4 = .error (.malformed .v4) := by simp only [Scan.finish, hmark]
    rw [endError_iff_of_error hfinish, quadEndFault_dot_iff hdot]

end Tracks

end Scan

theorem quadRules_govern : quadRules.Govern .v4 where
  step_iff := by
    intro cs s c e hrun
    have htracks := Scan.tracks_of_run hrun
    have hroom : s.components.length ≤ 4 := Scan.length_components_le_of_run hrun
    change _ ↔ QuadFault cs c e
    by_cases hdigit : isHexDigit c
    · obtain ⟨d, hd⟩ := isHexDigit_iff_digit?.1 hdigit
      rw [Scan.step_of_digit hd, htracks.digit_octet_eq_error_iff hd]
    · have hnone : Numeral.digit? c = none := digit?_eq_none_iff.2 hdigit
      rcases eq_or_ne c '.' with rfl | hdot
      · exact htracks.dot_eq_error_iff hroom
      · rw [quadFault_other_iff hdigit hdot]
        split_ifs with hcolon
        · have hstep : s.step .v4 (utf8Len cs) c = .error (.malformed .v4) := hcolon ▸ rfl
          simp [hstep, eq_comm]
        · rw [Scan.step_stray hnone hdot hcolon]
          simp [eq_comm]
  end_iff := by
    intro cs s e hrun
    exact (Scan.tracks_of_run hrun).endError_octets_iff (Scan.length_components_le_of_run hrun)
      (Scan.gap_eq_none_of_run hrun)

namespace Address

/-- A v4 text is refused with the error of its first fault from the left. -/
theorem parse_v4_eq_error_iff (text : String) (e : ParseError) :
    Address.parse .v4 text = .error e ↔ quadRules.FirstFault text.toList e :=
  quadRules_govern.parse_eq_error_iff

-- An octet that is too large is not noticed before its end, and a letter comes first.
example : Address.parse .v4 "1.256a" = .error (.invalidComponent 2) := by decide

end Address

end Inet
