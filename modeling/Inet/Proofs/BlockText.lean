import Mathlib.Data.List.TakeWhile
import Inet.Block.Text
import Inet.Proofs.MaskBits
import Inet.Proofs.Recognition

/-!
Reading blocks. The text is cut at its first slash. An error of the address comes before everything else; then what
follows the slash is a prefix length if it is a decimal numeral, however long, and an address otherwise.
-/

namespace Inet

variable {f : Family}

theorem Address.notMem_of_parse {text : String} {a : Address f} {c : Char} (h : Address.parse f text = .ok a)
    (hdigit : Numeral.digit? c = none) (hsep : c ≠ f.separator) : c ∉ text.toList := by
  intro hmem
  have hallows : f.Allows c := (parse_eq_ok_iff.1 h).allows c hmem
  exact Family.not_allows hdigit hsep hallows

theorem Address.slash_notMem_of_parse {text : String} {a : Address f} (h : Address.parse f text = .ok a) :
    '/' ∉ text.toList :=
  notMem_of_parse h rfl (by cases f <;> decide)

/-- The text before the first slash, and the text after it if there is one. -/
def CutAtSlash (text before : String) (after? : Option String) : Prop :=
  '/' ∉ before.toList ∧ text = after?.elim before (before ++ "/" ++ ·)

theorem exists_cutAtSlash (text : String) : ∃ before after?, CutAtSlash text before after? := by
  by_cases hslash : '/' ∈ text.toList
  · obtain ⟨cs, ds, htext, hcs⟩ := List.eq_append_cons_of_mem hslash
    refine ⟨String.ofList cs, some (String.ofList ds), by rwa [String.toList_ofList], ?_⟩
    rw [← String.toList_inj, htext]
    simp
  · exact ⟨text, none, hslash, rfl⟩

theorem CutAtSlash.splitAtSlash_eq {text before : String} {after? : Option String}
    (h : CutAtSlash text before after?) : splitAtSlash text = (before, after?) := by
  obtain ⟨hslash, rfl⟩ := h
  have hpos : ∀ c ∈ before.toList, (c != '/') = true := fun c hc => by
    rw [bne_iff_ne]
    rintro rfl
    exact hslash hc
  unfold splitAtSlash
  cases after? with
  | none => simp [List.takeWhile_eq_self_iff.2 hpos]
  | some after => simp [List.takeWhile_append_of_pos hpos]

namespace Block

inductive MaskReading (f : Family) : String → Except ParseError (Address f) → Prop where
  | missing : MaskReading f "" (.error .missingMask)
  | length {after : String} {count : Nat} {m : Address f} :
    after ≠ "" → Numeral.Spells 10 after.toList count → count ≤ f.width → m.LeadingOnes count →
      MaskReading f after (.ok m)
  | overflow {after : String} {count : Nat} :
    after ≠ "" → Numeral.Spells 10 after.toList count → f.width < count →
      MaskReading f after (.error (.prefixOverflow (min count (2 ^ 32 - 1)) f.width))
  | address {after : String} {r : Except ParseError (Address f)} :
    after ≠ "" → (∀ count, ¬ Numeral.Spells 10 after.toList count) → Address.parse f after = r → MaskReading f after r

inductive Reading (f : Family) (before : String) : Option String → Except ParseError (Block f) → Prop where
  | refused {after? : Option String} {e : ParseError} :
    Address.parse f before = .error e → Reading f before after? (.error e)
  | single {a m : Address f} :
    Address.parse f before = .ok a → m.LeadingOnes f.width → Reading f before none (.ok (ofMask a m))
  | masked {after : String} {a m : Address f} :
    Address.parse f before = .ok a → MaskReading f after (.ok m) → Reading f before (some after) (.ok (ofMask a m))
  | unmasked {after : String} {a : Address f} {e : ParseError} :
    Address.parse f before = .ok a → MaskReading f after (.error e) → Reading f before (some after) (.error e)

theorem parseMask_of_spells {after : String} {count : Nat} (hne : after ≠ "")
    (h : Numeral.Spells 10 after.toList count) : parseMask f after =
      (Address.prefixMask? f (min prefixCap count)).mapError PrefixLengthError.toParseError := by
  have hcapped : Numeral.capped? prefixCap after.toList = some (min prefixCap count) :=
    Numeral.capped?_eq_some_iff.2 ⟨by simpa using hne, count, h, rfl⟩
  have hempty : ¬ after.isEmpty = true := by simpa using hne
  rw [parseMask, if_neg hempty, hcapped]

theorem parseMask_of_not_spells {after : String} (hne : after ≠ "")
    (h : ∀ count, ¬ Numeral.Spells 10 after.toList count) : parseMask f after = Address.parse f after := by
  have hcapped : Numeral.capped? prefixCap after.toList = none :=
    Numeral.capped?_eq_none_iff.2 fun ⟨_, count, hcount⟩ => h count hcount
  have hempty : ¬ after.isEmpty = true := by simpa using hne
  rw [parseMask, if_neg hempty, hcapped]

theorem MaskReading.parseMask_eq {after : String} {r : Except ParseError (Address f)} (h : MaskReading f after r) :
    parseMask f after = r := by
  have hwidth : f.width ≤ prefixCap := by cases f <;> decide
  cases h with
  | missing => rfl
  | length hne hspells hle hm =>
    rw [parseMask_of_spells hne hspells, Nat.min_eq_right (hle.trans hwidth), Address.prefixMask?,
      if_neg (Nat.not_lt.2 hle), Address.leadingOnes_iff.1 hm]
    rfl
  | overflow hne hspells hlt =>
    have hlt' : f.width < min prefixCap _ := lt_min (by cases f <;> decide) hlt
    rw [parseMask_of_spells hne hspells, Address.prefixMask?, if_pos hlt', Nat.min_comm]
    rfl
  | address hne hspells hr => rw [parseMask_of_not_spells hne hspells, hr]

theorem maskReading_parseMask (f : Family) (after : String) : MaskReading f after (parseMask f after) := by
  rcases eq_or_ne after "" with rfl | hne
  · exact .missing
  by_cases hspells : ∃ count, Numeral.Spells 10 after.toList count
  · obtain ⟨count, hcount⟩ := hspells
    rcases Nat.lt_or_ge f.width count with hlt | hle
    · have hreading := MaskReading.overflow hne hcount hlt
      rwa [← hreading.parseMask_eq] at hreading
    · have hreading := MaskReading.length hne hcount hle (Address.leadingOnes_iff.2 rfl)
      rwa [← hreading.parseMask_eq] at hreading
  · rw [not_exists] at hspells
    exact .address hne hspells (parseMask_of_not_spells hne hspells).symm

theorem parseMask_eq_iff {after : String} {r : Except ParseError (Address f)} :
    parseMask f after = r ↔ MaskReading f after r :=
  ⟨fun h => h ▸ maskReading_parseMask f after, MaskReading.parseMask_eq⟩

theorem Reading.parse_eq {text before : String} {after? : Option String} {r : Except ParseError (Block f)}
    (hcut : CutAtSlash text before after?) (h : Reading f before after? r) : Block.parse f text = r := by
  unfold Block.parse
  rw [hcut.splitAtSlash_eq]
  cases h with
  | refused ha => simp [ha, bind, Except.bind]
  | single ha hm =>
    rw [Address.leadingOnes_iff, Address.prefixMask_of_width_le le_rfl] at hm
    simp [ha, hm, bind, Except.bind, pure, Except.pure, Block.single]
  | masked ha hm => simp [ha, hm.parseMask_eq, bind, Except.bind, pure, Except.pure]
  | unmasked ha hm => simp [ha, hm.parseMask_eq, bind, Except.bind]

theorem Reading.parse_append_slash {before after : String} {a : Address f} {r : Except ParseError (Block f)}
    (ha : Address.parse f before = .ok a) (h : Reading f before (some after) r) :
    Block.parse f (before ++ "/" ++ after) = r :=
  h.parse_eq ⟨Address.slash_notMem_of_parse ha, rfl⟩

theorem exists_reading (f : Family) (before : String) (after? : Option String) : ∃ r, Reading f before after? r := by
  cases ha : Address.parse f before with
  | error e => exact ⟨_, .refused ha⟩
  | ok a =>
    cases after? with
    | none => exact ⟨_, .single ha (Address.leadingOnes_iff.2 rfl)⟩
    | some after =>
      cases hm : parseMask f after with
      | error e => exact ⟨_, .unmasked ha (parseMask_eq_iff.1 hm)⟩
      | ok m => exact ⟨_, .masked ha (parseMask_eq_iff.1 hm)⟩

theorem parse_eq_iff {text before : String} {after? : Option String} {r : Except ParseError (Block f)}
    (hcut : CutAtSlash text before after?) : Block.parse f text = r ↔ Reading f before after? r := by
  constructor
  · rintro rfl
    obtain ⟨r, hr⟩ := exists_reading f before after?
    rwa [hr.parse_eq hcut]
  · exact Reading.parse_eq hcut

theorem MaskReading.slash_notMem {after : String} {m : Address f} (h : MaskReading f after (.ok m)) :
    '/' ∉ after.toList := by
  cases h with
  | length _ hspells _ _ => exact hspells.notMem_of_digit? (by decide) rfl
  | address _ _ hparse => exact Address.slash_notMem_of_parse hparse

/-- The rules by which a text is read as a block, and which error comes first; a second slash is never accepted. -/
theorem parse_reading (f : Family) (text : String) :
    (∃ before after?, CutAtSlash text before after? ∧ ∀ r, Block.parse f text = r ↔ Reading f before after? r) ∧
    (2 ≤ text.toList.count '/' → ∃ e, Block.parse f text = .error e) := by
  obtain ⟨before, after?, hcut⟩ := exists_cutAtSlash text
  refine ⟨⟨before, after?, hcut, fun r => parse_eq_iff hcut⟩, fun hcount => ?_⟩
  cases hparse : Block.parse f text with
  | error e => exact ⟨e, rfl⟩
  | ok b =>
    have hreading := (parse_eq_iff hcut).1 hparse
    obtain ⟨hbefore, rfl⟩ := hcut
    have hzero : before.toList.count '/' = 0 := List.count_eq_zero.2 hbefore
    cases hreading with
    | single _ _ => simp [hzero] at hcount
    | @masked after a m _ hm =>
      have hafter : after.toList.count '/' = 0 := List.count_eq_zero.2 hm.slash_notMem
      simp [hzero, hafter] at hcount

theorem parse_second_slash :
    2 ≤ "10.0.0.0/8/".toList.count '/' ∧ ∃ e, Block.parse .v4 "10.0.0.0/8/" = .error e := by
  have hcount : 2 ≤ "10.0.0.0/8/".toList.count '/' := by decide
  exact ⟨hcount, (parse_reading .v4 "10.0.0.0/8/").2 hcount⟩

end Block

end Inet
