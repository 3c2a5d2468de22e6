import Inet.Datum
import Inet.Proofs.BlockText
import Inet.Proofs.RoundTrip

/-!
Values of every kind as text. The text of a value is read back as that value: a block is read by the rule that its own
text follows, and a text that one family accepts is detected as of that family. Stored data inherits both.
-/

namespace Inet

variable {f : Family} {text : String}

namespace Address

variable {a : Address f}

theorem separator_mem_of_parse (h : Address.parse f text = .ok a) : f.separator ∈ text.toList :=
  (parse_eq_ok_iff.1 h).separator_mem

theorem ne_empty_of_parse (h : Address.parse f text = .ok a) : text ≠ "" := by
  rintro rfl
  exact absurd (separator_mem_of_parse h) List.not_mem_nil

theorem not_spells_of_parse (h : Address.parse f text = .ok a) (n : Nat) : ¬ Numeral.Spells 10 text.toList n := by
  intro hspells
  have hsep : f.separator ∉ text.toList := hspells.notMem_of_digit? (by decide) (Scan.digit?_separator f)
  exact hsep (separator_mem_of_parse h)

theorem contains_colon_of_parse (h : Address.parse f text = .ok a) : text.toList.contains ':' = decide (f = .v6) := by
  cases f with
  | v4 =>
    have hcolon : ':' ∉ text.toList := notMem_of_parse h rfl (by decide)
    simpa using hcolon
  | v6 =>
    have hcolon : ':' ∈ text.toList := separator_mem_of_parse h
    simpa using hcolon

end Address

theorem Family.detect_of_cut {before : String} {after? : Option String} {a : Address f}
    (hcut : CutAtSlash text before after?) (h : Address.parse f before = .ok a) : Family.detect text = .ok f := by
  have hempty : ¬ before.toList.isEmpty = true := by simpa using Address.ne_empty_of_parse h
  unfold detect
  rw [hcut.splitAtSlash_eq]
  dsimp only
  rw [if_neg hempty, Address.contains_colon_of_parse h]
  cases f with
  | v4 =>
    have hdot : '.' ∈ before.toList := Address.separator_mem_of_parse h
    simp [hdot]
  | v6 => simp

theorem Address.detect_of_parse {a : Address f} (h : Address.parse f text = .ok a) : Family.detect text = .ok f := by
  have hcut : CutAtSlash text text none := ⟨slash_notMem_of_parse h, rfl⟩
  exact Family.detect_of_cut hcut h

namespace Block

theorem detect_of_parse {b : Block f} (h : Block.parse f text = .ok b) : Family.detect text = .ok f := by
  obtain ⟨before, after?, hcut⟩ := exists_cutAtSlash text
  cases (parse_eq_iff hcut).1 h with
  | single ha => exact Family.detect_of_cut hcut ha
  | masked ha _ => exact Family.detect_of_cut hcut ha

theorem maskReading_toString {m : Address f} {length : Nat} (h : m.prefixLength? = some length) :
    MaskReading f (toString length) (.ok m) := by
  obtain ⟨hle, hm⟩ := Address.prefixLength?_eq_some h
  have htext : (toString length).toList = Nat.toDigits 10 length := Nat.toList_repr
  refine .length ?_ (htext ▸ .toDigits (by decide) length) hle hm
  rw [ne_eq, ← String.toList_inj, htext]
  exact Nat.toDigits_ne_nil

theorem maskReading_text (m : Address f) : MaskReading f m.text (.ok m) :=
  .address (Address.ne_empty_of_parse m.parse_text) (Address.not_spells_of_parse m.parse_text) m.parse_text

theorem parse_text (b : Block f) : Block.parse f b.text = .ok b := by
  have hread (after : String) (h : MaskReading f after (.ok b.mask)) :
      Block.parse f (b.value.text ++ "/" ++ after) = .ok b := by
    have hreading := Reading.masked b.value.parse_text h
    rw [ofMask_value_mask] at hreading
    exact hreading.parse_append_slash b.value.parse_text
  unfold Block.text
  split
  next length h => exact hread _ (maskReading_toString h)
  next => exact hread _ (maskReading_text b.mask)

end Block

theorem AnyFamily.parse_of_detect {α : Family → Type} {read : (f : Family) → String → Except ParseError (α f)} {x : α f}
    (hdetect : Family.detect text = .ok f) (h : read f text = .ok x) : AnyFamily.parse read text = .ok (of x) := by
  simp [AnyFamily.parse, hdetect, h, bind, Except.bind, pure, Except.pure]

namespace Kind

theorem parse_text : (k : Kind) → (x : k.Carrier) → k.parse (k.text x) = .ok x
  | address _, a => Address.parse_text a
  | block _, b => Block.parse_text b
  | anyAddress, ⟨_, a⟩ => AnyFamily.parse_of_detect (Address.detect_of_parse a.parse_text) a.parse_text
  | anyBlock, ⟨_, b⟩ => AnyFamily.parse_of_detect (Block.detect_of_parse b.parse_text) b.parse_text

theorem result_decode_text (k : Kind) (text : String) :
    (k.decode (.text text)).result = (k.parse text).mapError .text := by
  simp [decode]

/-- The text of a value gives the value back, on its own and out of stored data; a stored text decodes exactly if it is
accepted, and fails with the message of the text. -/
theorem decode_encode (k : Kind) :
    (∀ x : k.Carrier, k.parse (k.text x) = .ok x) ∧
    (∀ x : k.Carrier, (k.decode (k.encode x)).result = .ok x) ∧
    ∀ text : String,
      (∀ x, (k.decode (.text text)).result = .ok x ↔ k.parse text = .ok x) ∧
      ∀ message, (∃ e, (k.decode (.text text)).result = .error e ∧ e.message = message) ↔
        ∃ e, k.parse text = .error e ∧ e.message = message := by
  refine ⟨k.parse_text, fun x => ?_, fun text => ⟨fun x => ?_, fun message => ?_⟩⟩
  · rw [encode, result_decode_text, k.parse_text]
    rfl
  · rw [result_decode_text]
    cases k.parse text <;> simp [Except.mapError]
  · rw [result_decode_text]
    cases k.parse text <;> simp [Except.mapError]

end Kind

end Inet
