import Inet.Proofs.FamilyAgreement
import Inet.Proofs.FirstFault

/-!
Which family a text is read in. The characters of a text tell a family: any colon means v6, otherwise any dot means v4.
Detection asks only the characters before the first slash. For addresses the two answers differ on some texts. No such
text is accepted in either family, so only the error depends on where the search stops.
-/

namespace Inet

variable {f : Family} {text : String} {e : ParseError}

/-- The family that characters tell: any colon means v6, otherwise any dot means v4. -/
def Family.told (cs : List Char) : Except ParseError Family :=
  if ':' ∈ cs then .ok .v6
  else if '.' ∈ cs then .ok .v4
  else if cs = [] then .error .missingAddress
  else .error .unknownFamily

theorem Family.told_of_colon {cs : List Char} (hcolon : ':' ∈ cs) : told cs = .ok .v6 := if_pos hcolon

theorem Family.told_of_dot {cs : List Char} (hcolon : ':' ∉ cs) (hdot : '.' ∈ cs) : told cs = .ok .v4 := by
  rw [told, if_neg hcolon, if_pos hdot]

theorem Family.told_of_neither {cs : List Char} (hcolon : ':' ∉ cs) (hdot : '.' ∉ cs) :
    told cs = .error (if cs = [] then .missingAddress else .unknownFamily) := by
  rw [told, if_neg hcolon, if_neg hdot, apply_ite Except.error]

def beforeSlash (text : String) : List Char := text.toList.takeWhile (· != '/')

theorem mem_of_mem_beforeSlash {c : Char} (h : c ∈ beforeSlash text) : c ∈ text.toList :=
  (List.takeWhile_prefix _).subset h

theorem beforeSlash_of_notMem (h : '/' ∉ text.toList) : beforeSlash text = text.toList := by
  refine List.takeWhile_eq_self_iff.2 fun c hc => bne_iff_ne.2 ?_
  rintro rfl
  exact h hc

theorem mem_beforeSlash_of_opening {c : Char} {cs : List Char} (htext : text.toList = openingDigits text ++ c :: cs)
    (hc : c ≠ '/') : c ∈ beforeSlash text := by
  have hdigits : ∀ d ∈ openingDigits text, d != '/' := by
    intro d hd
    refine bne_iff_ne.2 ?_
    rintro rfl
    exact absurd (isHexDigit_of_mem_openingDigits hd) (by decide)
  rw [beforeSlash, htext, List.takeWhile_append_of_pos hdigits]
  simp [hc]

theorem exists_after_openingDigits (h : '/' ∈ text.toList) : ∃ c cs, text.toList = openingDigits text ++ c :: cs := by
  obtain ⟨cs, htext⟩ := openingDigits_append text
  cases cs with
  | nil =>
    rw [htext, List.append_nil] at h
    exact absurd (isHexDigit_of_mem_openingDigits h) (by decide)
  | cons c cs => exact ⟨c, cs, htext⟩

theorem Family.detect_eq_told (text : String) : detect text = told (beforeSlash text) := by
  have hbefore : (splitAtSlash text).1.toList = beforeSlash text := splitAtSlash_fst text
  unfold detect told
  rw [hbefore]
  rcases eq_or_ne (beforeSlash text) [] with hnil | hne
  · simp [hnil]
  · simp [hne]

namespace IpAddress

def readIn (told : Except ParseError Family) (text : String) : Except ParseError IpAddress :=
  told.bind fun f => (Address.parse f text).map .of

def parseByWhole (text : String) : Except ParseError IpAddress := readIn (Family.told text.toList) text

/-- The texts on which it makes no difference that a search for separators stops at the first slash. -/
inductive SlashHarmless (text : String) : Prop where
  | absent : '/' ∉ text.toList → SlashHarmless text
  | colon : ':' ∈ beforeSlash text → SlashHarmless text
  | dot : '.' ∈ beforeSlash text → ':' ∉ text.toList → SlashHarmless text
  | neither : beforeSlash text ≠ [] → ':' ∉ text.toList → '.' ∉ text.toList → SlashHarmless text
  -- In the last two a colon may be hidden, but both families refuse the text before any separator.
  | overlong : '.' ∈ beforeSlash text → 4 < (openingDigits text).length → SlashHarmless text
  | stray {c : Char} {cs : List Char} : '.' ∈ beforeSlash text → text.toList = openingDigits text ++ c :: cs → c ≠ '.' →
    Family.v4.Opens (openingDigits text) → SlashHarmless text

theorem parse_eq_readIn (text : String) : IpAddress.parse text = readIn (Family.told (beforeSlash text)) text := by
  unfold IpAddress.parse AnyFamily.parse readIn
  rw [Family.detect_eq_told]
  cases Family.told (beforeSlash text) with
  | error e => rfl
  | ok f => cases hparse : Address.parse f text <;> simp [hparse, bind, Except.bind, Except.map, pure, Except.pure]

theorem readIn_eq_ok_iff {told : Except ParseError Family} {x : IpAddress} :
    readIn told text = .ok x ↔ told = .ok x.family ∧ Address.parse x.family text = .ok x.content := by
  unfold readIn
  cases told with
  | error e => simp [Except.bind]
  | ok f =>
    constructor
    · intro h
      cases hparse : Address.parse f text with
      | error e => simp [Except.bind, Except.map, hparse] at h
      | ok a =>
        simp only [Except.bind, Except.map, hparse] at h
        injection h with h
        exact h ▸ ⟨rfl, hparse⟩
    · rintro ⟨hf, hparse⟩
      injection hf with hf
      subst hf
      simp [Except.bind, Except.map, hparse, AnyFamily.of]

theorem exists_error_of_slash (f : Family) (hslash : '/' ∈ text.toList) :
    ∃ e, Address.parse f text = .error e ∧ e.BlamesText f := by
  cases hparse : Address.parse f text with
  | error e =>
    have hne : text ≠ "" := by
      rintro rfl
      exact absurd hslash List.not_mem_nil
    exact ⟨e, rfl, Address.blamesText_of_parse hparse hne⟩
  | ok a => exact absurd hslash (Address.slash_notMem_of_parse hparse)

theorem readIn_of_error (h : Address.parse f text = .error e) : readIn (.ok f) text = .error e := by
  simp [readIn, Except.bind, Except.map, h]

theorem parse_eq_ok_iff_parseByWhole {x : IpAddress} : IpAddress.parse text = .ok x ↔ parseByWhole text = .ok x := by
  rw [parse_eq_readIn, parseByWhole, readIn_eq_ok_iff, readIn_eq_ok_iff, and_congr_left_iff]
  intro hparse
  rw [beforeSlash_of_notMem (Address.slash_notMem_of_parse hparse)]

theorem slashHarmless_of_same_error (hslash : '/' ∈ text.toList) (hcolon : ':' ∉ beforeSlash text)
    (hdot : '.' ∈ beforeSlash text) (herror : ∀ f, Address.parse f text = .error e) : SlashHarmless text := by
  obtain ⟨c, cs, htext⟩ := exists_after_openingDigits hslash
  have hc : c ≠ ':' := by
    rintro rfl
    exact hcolon (mem_beforeSlash_of_opening htext (by decide))
  rcases (Address.same_error_iff htext hc).1 ⟨e, herror⟩ with hlong | ⟨hc', hopens⟩
  · exact .overlong hdot hlong
  · exact .stray hdot htext hc' hopens

theorem readIn_told_of_dot {cs : List Char} (herror : ∀ f, Address.parse f text = .error e) (hdot : '.' ∈ cs) :
    readIn (Family.told cs) text = .error e := by
  by_cases hcolon : ':' ∈ cs
  · rw [Family.told_of_colon hcolon, readIn_of_error (herror .v6)]
  · rw [Family.told_of_dot hcolon hdot, readIn_of_error (herror .v4)]

theorem parse_eq_of_same_error (herror : ∀ f, Address.parse f text = .error e) (hdot : '.' ∈ beforeSlash text) :
    IpAddress.parse text = parseByWhole text := by
  rw [parse_eq_readIn, parseByWhole, readIn_told_of_dot herror hdot,
    readIn_told_of_dot herror (mem_of_mem_beforeSlash hdot)]

theorem parse_eq_of_colon (hcolon : ':' ∈ beforeSlash text) : IpAddress.parse text = parseByWhole text := by
  rw [parse_eq_readIn, parseByWhole, Family.told_of_colon hcolon, Family.told_of_colon (mem_of_mem_beforeSlash hcolon)]

theorem SlashHarmless.parse_eq (h : SlashHarmless text) : IpAddress.parse text = parseByWhole text := by
  cases h with
  | absent hslash => rw [parse_eq_readIn, parseByWhole, beforeSlash_of_notMem hslash]
  | colon hcolon => exact parse_eq_of_colon hcolon
  | dot hdot hcolon =>
    have hcolon' := mt mem_of_mem_beforeSlash hcolon
    rw [parse_eq_readIn, parseByWhole, Family.told_of_dot hcolon' hdot,
      Family.told_of_dot hcolon (mem_of_mem_beforeSlash hdot)]
  | neither hne hcolon hdot =>
    have hcolon' := mt mem_of_mem_beforeSlash hcolon
    have hdot' := mt mem_of_mem_beforeSlash hdot
    have hne' : text.toList ≠ [] := fun hnil => hne (by rw [beforeSlash, hnil, List.takeWhile_nil])
    rw [parse_eq_readIn, parseByWhole, Family.told_of_neither hcolon' hdot', if_neg hne,
      Family.told_of_neither hcolon hdot, if_neg hne']
  | overlong hdot hlong =>
    obtain ⟨e, herror⟩ := Address.exists_same_error_of_long hlong
    exact parse_eq_of_same_error herror hdot
  | @stray c cs hdot htext hc hopens =>
    rcases eq_or_ne c ':' with rfl | hcolon
    · exact parse_eq_of_colon (mem_beforeSlash_of_opening htext (by decide))
    · obtain ⟨e, herror⟩ := (Address.same_error_iff htext hcolon).2 (.inr ⟨hc, hopens⟩)
      exact parse_eq_of_same_error herror hdot

theorem slashHarmless_of_parse_eq (h : IpAddress.parse text = parseByWhole text) : SlashHarmless text := by
  by_cases hslash : '/' ∈ text.toList
  swap
  · exact .absent hslash
  rw [parse_eq_readIn, parseByWhole] at h
  obtain ⟨e₄, herror₄, hblames₄⟩ := exists_error_of_slash .v4 hslash
  obtain ⟨e₆, herror₆, hblames₆⟩ := exists_error_of_slash .v6 hslash
  have hread₄ := readIn_of_error herror₄
  have hread₆ := readIn_of_error herror₆
  by_cases hcolon : ':' ∈ beforeSlash text
  · exact .colon hcolon
  by_cases hdot : '.' ∈ beforeSlash text
  · rw [Family.told_of_dot hcolon hdot, hread₄] at h
    by_cases hwhole : ':' ∈ text.toList
    · rw [Family.told_of_colon hwhole, hread₆] at h
      injection h with h
      exact slashHarmless_of_same_error hslash hcolon hdot fun | .v4 => herror₄ | .v6 => h ▸ herror₆
    · exact .dot hdot hwhole
  -- The text before the slash tells no family, and no reader raises the error that says so.
  · rw [Family.told_of_neither hcolon hdot] at h
    have hundecided (f : Family) :
        ¬ ParseError.BlamesText f (if beforeSlash text = [] then .missingAddress else .unknownFamily) := by
      split_ifs <;> simp [ParseError.BlamesText]
    by_cases hcolon' : ':' ∈ text.toList
    · rw [Family.told_of_colon hcolon', hread₆] at h
      injection h with h
      exact absurd (h ▸ hblames₆) (hundecided .v6)
    by_cases hdot' : '.' ∈ text.toList
    · rw [Family.told_of_dot hcolon' hdot', hread₄] at h
      injection h with h
      exact absurd (h ▸ hblames₄) (hundecided .v4)
    rw [Family.told_of_neither hcolon' hdot', if_neg (List.ne_nil_of_mem hslash)] at h
    refine .neither (fun hnil => ?_) hcolon' hdot'
    rw [if_pos hnil] at h
    cases h

/-- An address is read in the family that its whole text tells, unless a slash hides the separator. -/
theorem parse_eq_parseByWhole_iff (text : String) :
    (∀ x, IpAddress.parse text = .ok x ↔ parseByWhole text = .ok x) ∧
    (IpAddress.parse text = parseByWhole text ↔ SlashHarmless text) :=
  ⟨fun _ => parse_eq_ok_iff_parseByWhole, slashHarmless_of_parse_eq, SlashHarmless.parse_eq⟩

theorem parse_hidden_colon : IpAddress.parse "1/:" = .error .unknownFamily ∧
    parseByWhole "1/:" = .error (.unexpectedCharacter '/' 1) := by
  decide

end IpAddress

end Inet
