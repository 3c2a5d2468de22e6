import Inet.Proofs.Diagnosis

/-!
What is wrong with a v6 text. The rules speak of the text alone: which characters stand where, how long the runs of
digits are and how many, and whether two colons stand side by side. A reader of v6 addresses raises the error of the
first fault that they find from the left.
-/

namespace Inet

open String (utf8Len)

/-- What is wrong with a character of a v6 text, judged by the text before it. -/
inductive GroupFault (before : List Char) (c : Char) : ParseError → Prop where
  | stray : ¬ isHexDigit c → c ≠ '.' → c ≠ ':' → GroupFault before c (strayFault c (utf8Len before))
  | dot : c = '.' → GroupFault before c (.malformed .v6)
  | loneColon : isHexDigit c → before = [':'] → GroupFault before c (.malformed .v6)
  | fifthDigit : isHexDigit c → (closingDigits before).length = 4 →
    GroupFault before c (.invalidComponent (utf8Len before - 4))
  | ninthGroup : c = ':' → closingDigits before ≠ [] → (digitRuns before).length = 9 →
    GroupFault before c (.componentCount .v6 9)
  | secondGap : c = ':' → [':'] <:+ before → [':', ':'] <:+: before → GroupFault before c .repeatedGap

inductive GroupEndFault (cs : List Char) : ParseError → Prop where
  | missing : cs = [] → GroupEndFault cs .missingAddress
  | loneColon : [':'] <:+ cs → ¬ [':', ':'] <:+ cs → GroupEndFault cs (.malformed .v6)
  | ninthGroup : closingDigits cs ≠ [] → (digitRuns cs).length = 9 → GroupEndFault cs (.componentCount .v6 9)
  | fewGroups : cs ≠ [] → ¬ [':'] <:+ cs → ¬ [':', ':'] <:+: cs → (digitRuns cs).length < 8 →
    GroupEndFault cs (.componentCount .v6 (digitRuns cs).length)

def groupRules : FaultRules := ⟨GroupFault, GroupEndFault⟩

variable {cs : List Char} {s : Scan} {c : Char} {e : ParseError}

theorem groupFault_digit_iff (hc : isHexDigit c) : GroupFault cs c e ↔ (cs = [':'] ∧ e = .malformed .v6) ∨
    ((closingDigits cs).length = 4 ∧ e = .invalidComponent (utf8Len cs - 4)) := by
  have hdot : c ≠ '.' := ne_of_isHexDigit hc (by decide)
  have hcolon : c ≠ ':' := ne_of_isHexDigit hc (by decide)
  constructor
  · intro h
    cases h with
    | stray h _ _ => exact absurd hc h
    | dot h => exact absurd h hdot
    | loneColon _ h => exact .inl ⟨h, rfl⟩
    | fifthDigit _ h => exact .inr ⟨h, rfl⟩
    | ninthGroup h _ _ => exact absurd h hcolon
    | secondGap h _ _ => exact absurd h hcolon
  · rintro (⟨h, rfl⟩ | ⟨h, rfl⟩)
    · exact .loneColon hc h
    · exact .fifthDigit hc h

theorem groupFault_colon_iff : GroupFault cs ':' e ↔
    (closingDigits cs ≠ [] ∧ (digitRuns cs).length = 9 ∧ e = .componentCount .v6 9) ∨
      ([':'] <:+ cs ∧ [':', ':'] <:+: cs ∧ e = .repeatedGap) := by
  have hdigit : ¬ isHexDigit ':' := by decide
  constructor
  · intro h
    cases h with
    | stray _ _ h => exact absurd rfl h
    | dot h => cases h
    | loneColon h _ => exact absurd h hdigit
    | fifthDigit h _ => exact absurd h hdigit
    | ninthGroup _ hne h => exact .inl ⟨hne, h, rfl⟩
    | secondGap _ hcolon h => exact .inr ⟨hcolon, h, rfl⟩
  · rintro (⟨hne, h, rfl⟩ | ⟨hcolon, h, rfl⟩)
    · exact .ninthGroup rfl hne h
    · exact .secondGap rfl hcolon h

theorem groupFault_other_iff (hdigit : ¬ isHexDigit c) (hcolon : c ≠ ':') : GroupFault cs c e ↔
    e = if c = '.' then .malformed .v6 else strayFault c (utf8Len cs) := by
  constructor
  · intro h
    cases h with
    | stray _ hdot _ => rw [if_neg hdot]
    | dot h => rw [if_pos h]
    | loneColon h _ => exact absurd h hdigit
    | fifthDigit h _ => exact absurd h hdigit
    | ninthGroup h _ _ => exact absurd h hcolon
    | secondGap h _ _ => exact absurd h hcolon
  · rintro rfl
    split_ifs with hdot
    · exact .dot hdot
    · exact .stray hdigit hdot hcolon

theorem groupEndFault_nil_iff : GroupEndFault [] e ↔ e = .missingAddress := by
  constructor
  · intro h
    cases h with
    | missing _ => rfl
    | loneColon h _ => exact absurd h (by decide)
    | ninthGroup hne _ => exact absurd rfl hne
    | fewGroups hne _ _ _ => exact absurd rfl hne
  · rintro rfl
    exact .missing rfl

theorem groupEndFault_digits_iff (hne : closingDigits cs ≠ []) : GroupEndFault cs e ↔
    ((digitRuns cs).length = 9 ∧ e = .componentCount .v6 9) ∨ (¬ [':', ':'] <:+: cs ∧ (digitRuns cs).length < 8 ∧
      e = .componentCount .v6 (digitRuns cs).length) := by
  have hcs : cs ≠ [] := ne_nil_of_closing hne
  have hcolon : ¬ [':'] <:+ cs := not_suffix_of_closing (by decide) hne
  constructor
  · intro h
    cases h with
    | missing h => exact absurd h hcs
    | loneColon h _ => exact absurd h hcolon
    | ninthGroup _ h => exact .inl ⟨h, rfl⟩
    | fewGroups _ _ hgap h => exact .inr ⟨hgap, h, rfl⟩
  · rintro (⟨h, rfl⟩ | ⟨hgap, h, rfl⟩)
    · exact .ninthGroup hne h
    · exact .fewGroups hcs hcolon hgap h

theorem groupEndFault_colon_iff (hcolon : [':'] <:+ cs) :
    GroupEndFault cs e ↔ ¬ [':', ':'] <:+ cs ∧ e = .malformed .v6 := by
  constructor
  · intro h
    cases h with
    | missing h => exact absurd (h ▸ hcolon) (by decide)
    | loneColon _ h => exact ⟨h, rfl⟩
    | ninthGroup hne _ => exact absurd (closingDigits_eq_nil_of_suffix (by decide) hcolon) hne
    | fewGroups _ h _ _ => exact absurd hcolon h
  · rintro ⟨h, rfl⟩
    exact .loneColon hcolon h

namespace Scan

namespace Tracks

theorem value_lt {first count value : Nat} (h : s.Tracks .v6 cs) (hmark : s.mark = .digits first count value) :
    value < 65536 := by
  have hends := h.ends
  rw [hmark] at hends
  obtain ⟨hne, _, _, hspells⟩ := hends.digits_inv
  obtain ⟨_, _, hlen, _⟩ := hends.exists_digits hne
  have hpow : 16 ^ (closingDigits cs).length ≤ 16 ^ 4 := Nat.pow_le_pow_right (by decide) hlen
  exact hspells.lt.trans_le hpow

theorem closeGroup_eq_error_iff {first count value : Nat} {mark : Mark} (h : s.Tracks .v6 cs)
    (hmark : s.mark = .digits first count value) (hroom : s.components.length ≤ 8) :
    s.close .v6 value mark = .error e ↔ (digitRuns cs).length = 9 ∧ e = .componentCount .v6 9 := by
  have hne : closingDigits cs ≠ [] := (hmark ▸ h.ends).digits_inv.1
  -- Four hexadecimal digits always fit, so that only the number of groups can be wrong.
  have hvalue : ¬ Family.v6.componentBase ≤ value := Nat.not_le.2 (h.value_lt hmark)
  rw [h.close_eq_error_iff hne hroom]
  simp only [hvalue, false_and, and_false, or_false]
  rfl

theorem colon_eq_error_iff (h : s.Tracks .v6 cs) (hroom : s.components.length ≤ 8) :
    s.colon .v6 = .error e ↔ GroupFault cs ':' e := by
  rw [groupFault_colon_iff]
  rcases h.ends.groups_cases with ⟨rfl, hmark⟩ | hne | ⟨hcolon, hmark⟩
  · simp [Scan.colon, hmark, closingDigits]
  · obtain ⟨value, hmark, _⟩ := h.ends.exists_digits hne
    have hcolon : ¬ [':'] <:+ cs := not_suffix_of_closing (by decide) hne
    have hclose : s.colon .v6 = s.close .v6 value .colon := by simp only [Scan.colon, hmark]
    rw [hclose, h.closeGroup_eq_error_iff hmark hroom]
    simp [hne, hcolon]
  · have hnil : closingDigits cs = [] := closingDigits_eq_nil_of_suffix (by decide) hcolon
    have hgap : s.colon .v6 = if s.gap.isSome then .error .repeatedGap
        else .ok { s with gap := some s.components.length, mark := .gap } := by
      generalize hm : s.mark = mark at hmark
      cases hmark <;> simp only [Scan.colon, hm]
    rw [hgap, ← h.gap]
    split_ifs with hsome <;> simp [hnil, hcolon, hsome, eq_comm]

theorem endError_groups_iff (h : s.Tracks .v6 cs) (hroom : s.components.length ≤ 8) :
    s.EndError .v6 e ↔ GroupEndFault cs e := by
  rcases h.ends.groups_cases with ⟨rfl, hmark⟩ | hne | ⟨hcolon, hmark⟩
  · have hfinish : s.finish .v6 = .error .missingAddress := by simp only [Scan.finish, hmark]
    rw [endError_iff_of_error hfinish, groupEndFault_nil_iff]
  · obtain ⟨value, hmark, _⟩ := h.ends.exists_digits hne
    have hvalue : value < Family.v6.componentBase := h.value_lt hmark
    rw [endError_digits_iff hmark, h.closeGroup_eq_error_iff hmark hroom, groupEndFault_digits_iff hne, ← h.gap,
      ← h.length_digitRuns hne]
    simp only [hvalue, true_and, Bool.not_eq_true, Option.isSome_eq_false_iff, Option.isNone_iff_eq_none]
    rfl
  · rw [groupEndFault_colon_iff hcolon, ← h.ends.gap_iff]
    cases hm : s.mark with
    | gap =>
      have hpair : [':', ':'] <:+ cs := h.ends.gap_iff.1 hm
      have hgap : s.gap ≠ none := Option.isSome_iff_ne_none.1 (h.gap.2 hpair.isInfix)
      simp [EndError, Scan.finish, hm, expand_eq_error_iff, hgap]
    | leadingColon => simp [EndError, Scan.finish, hm, eq_comm]
    | colon => simp [EndError, Scan.finish, hm, eq_comm]
    | _ =>
      rw [hm] at hmark
      cases hmark

theorem digit_group_eq_error_iff {d : Nat} (h : s.Tracks .v6 cs) (hd : d < 16) :
    s.digit .v6 (utf8Len cs) d = .error e ↔ (cs = [':'] ∧ e = .malformed .v6) ∨
      ((closingDigits cs).length = 4 ∧ e = .invalidComponent (utf8Len cs - 4)) := by
  have hlen : (closingDigits cs).length ≤ 4 := h.ends.length_closingDigits_le
  have hstart := runStart_add_length cs
  have hfull : Family.v6.radix ≤ d ∨ Family.v6.maxDigits ≤ (closingDigits cs).length ↔
      (closingDigits cs).length = 4 := by
    simp only [Family.radix, Family.maxDigits]
    omega
  rw [h.digit_eq_error_iff, hfull]
  constructor
  · rintro (hcolon | ⟨_, hfour, he⟩)
    · exact .inl hcolon
    · have hplace : runStart cs = utf8Len cs - 4 := by omega
      exact .inr ⟨hfour, hplace ▸ he⟩
  · rintro (hcolon | ⟨hfour, he⟩)
    · exact .inl hcolon
    · have hplace : utf8Len cs - 4 = runStart cs := by omega
      have hcs : cs ≠ [':'] := by
        rintro rfl
        exact absurd hfour (by decide)
      exact .inr ⟨hcs, hfour, hplace ▸ he⟩

end Tracks

end Scan

theorem groupRules_govern : groupRules.Govern .v6 where
  step_iff := by
    intro cs s c e hrun
    have htracks := Scan.tracks_of_run hrun
    have hroom : s.components.length ≤ 8 := Scan.length_components_le_of_run hrun
    change _ ↔ GroupFault cs c e
    by_cases hdigit : isHexDigit c
    · obtain ⟨d, hwrites⟩ := isHexDigit_iff_writes.1 hdigit
      have hd : Numeral.digit? c = some d := Numeral.digit?_eq_some_iff.2 hwrites
      have hlt : d < 16 := hwrites.1
      rw [Scan.step_of_digit hd, htracks.digit_group_eq_error_iff hlt, groupFault_digit_iff hdigit]
    · have hnone : Numeral.digit? c = none := digit?_eq_none_iff.2 hdigit
      rcases eq_or_ne c ':' with rfl | hcolon
      · rw [Scan.step_colon, htracks.colon_eq_error_iff hroom]
      · rw [groupFault_other_iff hdigit hcolon]
        split_ifs with hdot
        · have hstep : s.step .v6 (utf8Len cs) c = .error (.malformed .v6) := hdot ▸ rfl
          simp [hstep, eq_comm]
        · rw [Scan.step_stray hnone hdot hcolon]
          simp [eq_comm]
  end_iff := by
    intro cs s e hrun
    exact (Scan.tracks_of_run hrun).endError_groups_iff (Scan.length_components_le_of_run hrun)

namespace Address

/-- A v6 text is refused with the error of its first fault from the left. -/
theorem parse_v6_eq_error_iff (text : String) (e : ParseError) :
    Address.parse .v6 text = .error e ↔ groupRules.FirstFault text.toList e :=
  groupRules_govern.parse_eq_error_iff

-- The gap that is repeated stands before the run of five digits.
example : Address.parse .v6 "1::2::12345" = .error .repeatedGap := by decide

end Address

end Inet
