import Inet.Proofs.BlockInclusion
import Inet.Proofs.ShortestNumeral
import Inet.Proofs.StoredText

/-!
The ways to make a prefix block. It may be given by an address and a prefix length, as a number or as text, or by an
address and the mask of that length, as an address or as text. All of them lead to one block. Where the length goes
beyond the address, number and text are refused alike.
-/

namespace Inet

variable {f : Family} {a : Address f} {before digits : String} {count : Nat}

theorem Address.prefixLength?_prefixMask (h : count ≤ f.width) : (prefixMask f count).prefixLength? = some count :=
  prefixLength?_eq_some_iff.2 ⟨h, leadingOnes_iff.2 rfl⟩

namespace Block

theorem parse_of_length (ha : Address.parse f before = .ok a) (hne : digits ≠ "")
    (hdigits : Numeral.Spells 10 digits.toList count) (hcount : count ≤ f.width) :
    Block.parse f (before ++ "/" ++ digits) = .ok (ofMask a (Address.prefixMask f count)) :=
  (Reading.masked ha (.length hne hdigits hcount (Address.leadingOnes_iff.2 rfl))).parse_append_slash ha

theorem parse_of_mask {after : String} {m : Address f} (ha : Address.parse f before = .ok a)
    (hm : Address.parse f after = .ok m) : Block.parse f (before ++ "/" ++ after) = .ok (ofMask a m) := by
  have hreading : MaskReading f after (.ok m) :=
    .address (Address.ne_empty_of_parse hm) (Address.not_spells_of_parse hm) hm
  exact (Reading.masked ha hreading).parse_append_slash ha

theorem parse_of_overflow (ha : Address.parse f before = .ok a) (hne : digits ≠ "")
    (hdigits : Numeral.Spells 10 digits.toList count) (hlong : f.width < count) (hcap : count ≤ prefixCap) :
    Block.parse f (before ++ "/" ++ digits) = .error (.prefixOverflow count f.width) := by
  have hreading : MaskReading f digits (.error (.prefixOverflow (min count (2 ^ 32 - 1)) f.width)) :=
    .overflow hne hdigits hlong
  have hmin : min count (2 ^ 32 - 1) = count := Nat.min_eq_left hcap
  rw [hmin] at hreading
  exact (Reading.unmasked ha hreading).parse_append_slash ha

theorem ofPrefixLength_eq_error (hlong : f.width < count) (a : Address f) :
    ofPrefixLength a count = .error ⟨count, f.width⟩ := by
  rw [ofPrefixLength, Address.prefixMask?, if_pos hlong]
  rfl

theorem text_of_prefixLength? {b : Block f} (h : b.prefixLength? = some count) :
    ∃ length : String, Numeral.Shortest 10 length.toList count ∧ b.text = b.value.text ++ "/" ++ length := by
  refine ⟨toString count, ?_, ?_⟩
  · rw [Numeral.shortest_iff (by decide) (by decide)]
    exact Nat.toList_repr
  · rw [Block.text, h]
    rfl

/-- However an address, a prefix length and its mask are written, they make one block, whose text has the length in its
shortest form; a length beyond the address is refused with one error, as a number and as text. -/
theorem ofPrefixLength_agrees_with_text (ha : Address.parse f before = .ok a) (hne : digits ≠ "")
    (hdigits : Numeral.Spells 10 digits.toList count) :
    (count ≤ f.width → ∃ b,
      Block.parse f (before ++ "/" ++ digits) = .ok b ∧
      (∀ after m, m.LeadingOnes count → Address.parse f after = .ok m →
        Block.parse f (before ++ "/" ++ after) = .ok b) ∧
      ofPrefixLength a count = .ok b ∧
      b = ofMask a (Address.prefixMask f count) ∧
      b.prefixLength? = some count ∧
      ∃ length : String, Numeral.Shortest 10 length.toList count ∧
        b.text = (a &&& Address.prefixMask f count).text ++ "/" ++ length) ∧
    (f.width < count → count ≤ 255 →
      ofPrefixLength a count = .error ⟨count, f.width⟩ ∧
      Block.parse f (before ++ "/" ++ digits) = .error (PrefixLengthError.toParseError ⟨count, f.width⟩)) := by
  constructor
  · intro hcount
    have hlength : (ofMask a (Address.prefixMask f count)).prefixLength? = some count :=
      Address.prefixLength?_prefixMask hcount
    refine ⟨ofMask a (Address.prefixMask f count), parse_of_length ha hne hdigits hcount, ?_,
      ofPrefixLength_eq_ok hcount a, rfl, hlength, text_of_prefixLength? hlength⟩
    intro after m hm hafter
    rw [Address.leadingOnes_iff.1 hm] at hafter
    exact parse_of_mask ha hafter
  · intro hlong hbyte
    have hcap : count ≤ prefixCap := hbyte.trans (by decide)
    exact ⟨ofPrefixLength_eq_error hlong a, parse_of_overflow ha hne hdigits hlong hcap⟩

theorem ofPrefixLength_agrees_with_padded_text :
    Address.parse .v4 "192.168.7.9" = .ok (.ofNat .v4 0xc0a80709) ∧
    (∃ b, ofPrefixLength (.ofNat .v4 0xc0a80709) 22 = .ok b ∧
      Block.parse .v4 "192.168.7.9/022" = .ok b ∧ Block.parse .v4 "192.168.7.9/255.255.252.0" = .ok b) ∧
    Block.parse .v4 "192.168.7.9/33" = .error (.prefixOverflow 33 32) := by
  have ha : Address.parse .v4 "192.168.7.9" = .ok (.ofNat .v4 0xc0a80709) := by decide
  have h022 : Numeral.Spells 10 "022".toList 22 := ⟨[0, 2, 2], by decide, rfl⟩
  have h33 : Numeral.Spells 10 "33".toList 33 := ⟨[3, 3], by decide, rfl⟩
  have hmask : Address.parse .v4 "255.255.252.0" = .ok (Address.prefixMask .v4 22) := by decide
  obtain ⟨b, htext, hmasked, hnumber, _⟩ :=
    (ofPrefixLength_agrees_with_text ha (by decide) h022).1 (by decide)
  have hrefused := (ofPrefixLength_agrees_with_text ha (by decide) h33).2 (by decide) (by decide)
  refine ⟨ha, ⟨b, hnumber, htext, ?_⟩, hrefused.2⟩
  exact hmasked "255.255.252.0" _ (Address.leadingOnes_iff.2 rfl) hmask

end Block

end Inet
