import Inet.Proofs.BlockRange

/-!
Inclusion of blocks. Whether one block covers another is told by the value of the inner one and by the two masks, the
order of blocks extends it, and a block is determined by its members. Prefix blocks are nested or disjoint, because
cutting an address to a shorter prefix forgets any longer cut that came before.
-/

namespace Inet.Block

variable {f : Family} {a x m n : Address f} {b c : Block f}

def Covers (b c : Block f) : Prop := ∀ a, c.contains a → b.contains a

theorem mask_and_mask_of_ends (hvalue : c.value &&& b.mask = b.value) (hbroadcast : c.broadcast &&& b.mask = b.value) :
    b.mask &&& c.mask = b.mask := by
  ext i hi
  have hends : (c.broadcast &&& b.mask).bits[i] = (c.value &&& b.mask).bits[i] := by rw [hvalue, hbroadcast]
  have hfixed : (c.value &&& c.mask).bits[i] = c.value.bits[i] := by rw [c.normalised]
  simp only [broadcast, Address.bits_and, Address.bits_or, Address.bits_not, BitVec.getElem_and, BitVec.getElem_or,
    BitVec.getElem_not] at hends hfixed ⊢
  -- Where `c` leaves the bit free its two ends differ, so `b` must leave it free as well.
  cases hmask : c.mask.bits[i] with
  | true => exact Bool.and_true _
  | false =>
    rw [hmask, Bool.and_false] at hfixed
    rw [hmask, ← hfixed] at hends
    simpa using hends.symm

theorem covers_iff : b.Covers c ↔ b.contains c.value ∧ b.mask &&& c.mask = b.mask := by
  constructor
  · intro h
    have hvalue : b.contains c.value := h c.value c.contains_value
    have hbroadcast : b.contains c.broadcast := h c.broadcast c.contains_broadcast
    rw [contains_iff] at hbroadcast
    exact ⟨hvalue, mask_and_mask_of_ends ((b.contains_iff c.value).1 hvalue) hbroadcast⟩
  · rintro ⟨hvalue, hmask⟩ a ha
    rw [contains_iff] at hvalue ha ⊢
    calc a &&& b.mask = a &&& c.mask &&& b.mask := (Address.and_and_of_subset hmask a).symm
      _ = c.value &&& b.mask := by rw [ha]
      _ = b.value := hvalue

instance (b c : Block f) : Decidable (b.Covers c) := decidable_of_iff _ covers_iff.symm

-- Under the mask 255.0.255.0 the block of 10.0.4.0 runs up to 10.255.4.255, and still misses 10.0.5.0/24.
example : ¬ Covers (ofMask (.ofNat .v4 0x0a000400) (.ofNat .v4 0xff00ff00))
    (ofMask (.ofNat .v4 0x0a000500) (.ofNat .v4 0xffffff00)) := by decide

theorem Covers.le (h : b.Covers c) : b ≤ c := by
  obtain ⟨hvalue, hmask⟩ := covers_iff.1 h
  rw [contains_iff] at hvalue
  have hle : b.value ≤ c.value := hvalue ▸ Address.and_le_left c.value b.mask
  rw [le_iff]
  rcases Nat.lt_or_eq_of_le (Address.le_iff.1 hle) with hlt | heq
  · exact .inl (Address.lt_iff.2 hlt)
  · have hmasks : b.mask ≤ c.mask := by
      rw [← hmask, Address.and_comm]
      exact Address.and_le_left c.mask b.mask
    exact .inr ⟨Address.toNat_inj.1 heq, hmasks⟩

theorem Covers.antisymm (hbc : b.Covers c) (hcb : c.Covers b) : b = c := by
  obtain ⟨hvalue, hmask⟩ := covers_iff.1 hbc
  have hmasks : b.mask = c.mask := by
    rw [← hmask, Address.and_comm]
    exact (covers_iff.1 hcb).2
  rw [contains_iff, hmasks, c.normalised] at hvalue
  exact Block.ext hvalue.symm hmasks

/-- Inclusion of blocks is decided by value and masks and goes along with their order; blocks with the same members are
equal. -/
theorem covers_decided_by_bits (b c : Block f) :
    ((∀ a, c.contains a → b.contains a) ↔ b.contains c.value ∧ b.mask &&& c.mask = b.mask) ∧
    ((∀ a, c.contains a → b.contains a) → b ≤ c) ∧
    ((∀ a, b.contains a ↔ c.contains a) ↔ b = c) := by
  refine ⟨covers_iff, Covers.le, ?_⟩
  constructor
  · intro hsame
    exact Covers.antisymm (fun a => (hsame a).2) fun a => (hsame a).1
  · rintro rfl a
    rfl

theorem covers_striped :
    Covers (ofMask (.ofNat .v4 0x0a000500) (.ofNat .v4 0xff00ff00))
      (ofMask (.ofNat .v4 0x0a070500) (.ofNat .v4 0xffffff00)) ∧
    ofMask (.ofNat .v4 0x0a000500) (.ofNat .v4 0xff00ff00) ≤
      ofMask (.ofNat .v4 0x0a070500) (.ofNat .v4 0xffffff00) := by
  obtain ⟨hcovers, hle, _⟩ := covers_decided_by_bits (ofMask (.ofNat .v4 0x0a000500) (.ofNat .v4 0xff00ff00))
    (ofMask (.ofNat .v4 0x0a070500) (.ofNat .v4 0xffffff00))
  have hcovered := hcovers.2 (by decide)
  exact ⟨hcovered, hle hcovered⟩

theorem contains_ofMask_iff : (ofMask a m).contains x ↔ x &&& m = a &&& m := contains_iff _ _

theorem ofMask_eq_iff : ofMask a m = ofMask x m ↔ a &&& m = x &&& m := by
  rw [Block.ext_iff]
  exact and_iff_left rfl

theorem ofMask_covers_ofMask (h : n &&& m = n) (a : Address f) : (ofMask a n).Covers (ofMask a m) :=
  covers_iff.2 ⟨contains_ofMask_iff.2 (Address.and_and_of_subset h a), h⟩

theorem ofMask_eq_of_common (h : n &&& m = n) {y : Address f} (ha : (ofMask a n).contains x)
    (hy : (ofMask y m).contains x) : ofMask y n = ofMask a n := by
  have hcovered : (ofMask y n).contains x := ofMask_covers_ofMask h y x hy
  rw [contains_ofMask_iff] at ha hcovered
  exact ofMask_eq_iff.2 (hcovered.symm.trans ha)

theorem ofPrefixLength_eq_ok {length : Nat} (h : length ≤ f.width) (a : Address f) :
    ofPrefixLength a length = .ok (ofMask a (Address.prefixMask f length)) := by
  rw [ofPrefixLength, Address.prefixMask?, if_neg (Nat.not_lt.2 h)]
  rfl

/-- Of two prefix blocks the longer lies inside the other one or apart from it, and cutting to the longer prefix before
cutting to the shorter one gives the same block. -/
theorem ofPrefixLength_nested_or_disjoint (a b : Address f) {p q : Nat} (hpq : p ≤ q) (hq : q ≤ f.width) :
    ∃ P Q R, ofPrefixLength a p = .ok P ∧ ofPrefixLength b q = .ok Q ∧ ofPrefixLength b p = .ok R ∧
      (R = P → ∀ x, Q.contains x → P.contains x) ∧ (R ≠ P → ∀ x, ¬ (P.contains x ∧ Q.contains x)) ∧
      ofPrefixLength Q.value p = .ok R := by
  have hp : p ≤ f.width := hpq.trans hq
  have hmask : Address.prefixMask f p &&& Address.prefixMask f q = Address.prefixMask f p := by
    rw [Address.prefixMask_and_prefixMask, Nat.min_eq_left hpq]
  refine ⟨_, _, _, ofPrefixLength_eq_ok hp a, ofPrefixLength_eq_ok hq b, ofPrefixLength_eq_ok hp b, ?_, ?_, ?_⟩
  · intro hsame
    rw [← hsame]
    exact ofMask_covers_ofMask hmask b
  · rintro hdifferent x ⟨hP, hQ⟩
    exact hdifferent (ofMask_eq_of_common hmask hP hQ)
  · rw [ofPrefixLength_eq_ok hp]
    exact congrArg Except.ok (ofMask_eq_iff.2 (Address.and_and_of_subset hmask b))

theorem disjoint_halves :
    9 ≤ 16 ∧ 16 ≤ Family.v4.width ∧ ∃ P Q, ofPrefixLength (.ofNat .v4 0x0a010203) 9 = .ok P ∧
      ofPrefixLength (.ofNat .v4 0x0ac80001) 16 = .ok Q ∧ ∀ x, ¬ (P.contains x ∧ Q.contains x) := by
  have hpq : 9 ≤ 16 := by decide
  have hq : 16 ≤ Family.v4.width := by decide
  obtain ⟨P, Q, R, hP, hQ, hR, _, hdisjoint, _⟩ :=
    ofPrefixLength_nested_or_disjoint (.ofNat .v4 0x0a010203) (.ofNat .v4 0x0ac80001) hpq hq
  have hdifferent : R ≠ P := by
    rintro rfl
    exact absurd (hP.trans hR.symm) (by decide)
  exact ⟨hpq, hq, P, Q, hP, hQ, hdisjoint hdifferent⟩

end Inet.Block
