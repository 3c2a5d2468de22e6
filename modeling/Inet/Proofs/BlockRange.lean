import Inet.Block
import Inet.Proofs.MaskBits

/-!
The range of a block. Its value is the least of its members and its broadcast the greatest, since the free bits are
added to the value. The members fill the whole range exactly if the mask is contiguous: below a stray zero of the mask
some fixed bit can be flipped without leaving the range.
-/

namespace Inet.Block

variable {f : Family} {a : Address f} {b : Block f}

theorem contains_value (b : Block f) : b.contains b.value := (b.contains_iff b.value).2 b.normalised

theorem broadcast_and_mask (b : Block f) : b.broadcast &&& b.mask = b.value := by
  have hfree : b.broadcast &&& b.mask = b.value &&& b.mask := by
    ext i hi
    simp [broadcast, Bool.and_or_distrib_right]
  exact hfree.trans b.normalised

theorem contains_broadcast (b : Block f) : b.contains b.broadcast := (b.contains_iff b.broadcast).2 b.broadcast_and_mask

theorem broadcast_eq_of_contains (h : b.contains a) : b.broadcast = a ||| ~~~b.mask := by
  rw [broadcast, ← (b.contains_iff a).1 h]
  ext i hi
  simp [Bool.or_and_distrib_right]

theorem between_of_contains (h : b.contains a) : b.value ≤ a ∧ a ≤ b.broadcast := by
  constructor
  · rw [← (b.contains_iff a).1 h]
    exact Address.and_le_left a b.mask
  · rw [broadcast_eq_of_contains h]
    exact Address.le_or_left a (~~~b.mask)

theorem value_and_not_mask (b : Block f) : b.value &&& ~~~b.mask = Address.unspecified f :=
  Address.and_not_eq_unspecified_iff.2 b.normalised

theorem toNat_broadcast (b : Block f) : b.broadcast.toNat = b.value.toNat + (~~~b.mask).toNat := by
  have hdisjoint : b.value.bits &&& (~~~b.mask).bits = 0#f.width := congrArg Address.bits b.value_and_not_mask
  have hsum : b.broadcast.bits = b.value.bits + (~~~b.mask).bits :=
    (BitVec.add_eq_or_of_and_eq_zero _ _ hdisjoint).symm
  rw [Address.toNat, hsum]
  exact BitVec.toNat_add_of_and_eq_zero hdisjoint

theorem contains_of_between {length : Nat} (hmask : b.mask = Address.prefixMask f length) (hlow : b.value ≤ a)
    (hhigh : a ≤ b.broadcast) : b.contains a := by
  have hleft : b.value &&& b.mask ≤ a &&& b.mask := hmask ▸ Address.and_prefixMask_mono hlow length
  have hright : a &&& b.mask ≤ b.broadcast &&& b.mask := hmask ▸ Address.and_prefixMask_mono hhigh length
  rw [b.normalised] at hleft
  rw [b.broadcast_and_mask] at hright
  exact (b.contains_iff a).2 (Address.le_antisymm hright hleft)

theorem exists_between_not_contains (h : b.prefixLength? = none) :
    ∃ a, b.value ≤ a ∧ a ≤ b.broadcast ∧ ¬ b.contains a := by
  obtain ⟨low, high, hlt, hhigh, hone, hzero⟩ := Address.exists_stray_bit h
  -- Adding the place value of the stray one stays below what the zero above it leaves free.
  have hfree : 2 ^ high ≤ (~~~b.mask).toNat := Address.two_pow_le_toNat_not hhigh hzero
  have hpow : 2 ^ low ≤ 2 ^ high := Nat.pow_le_pow_right (by decide) hlt.le
  have hsum : 2 ^ low + b.value.toNat ≤ b.broadcast.toNat := by
    rw [b.toNat_broadcast]
    omega
  have hfits : 2 ^ low + b.value.toNat < 2 ^ f.width := hsum.trans_lt b.broadcast.toNat_lt
  refine ⟨.ofNat f (2 ^ low + b.value.toNat), ?_, ?_, ?_⟩
  · rw [Address.le_iff, Address.toNat_ofNat hfits]
    exact Nat.le_add_left _ _
  · rwa [Address.le_iff, Address.toNat_ofNat hfits]
  · rw [contains_iff]
    intro hcontains
    have hbit := congrArg (fun a : Address f => a.bits.getLsbD low) hcontains
    simp only [Address.bits_and, BitVec.getLsbD_and, Address.getLsbD_ofNat_two_pow_add hfits, hone,
      Bool.and_true] at hbit
    exact Bool.not_ne_self _ hbit

/-- A block lies between its value and its broadcast, which are members, and it has every address between them exactly
if its mask is contiguous. -/
theorem contains_iff_between (b : Block f) :
    b.contains b.value ∧ b.contains b.broadcast ∧ (∀ a, b.contains a → b.value ≤ a ∧ a ≤ b.broadcast) ∧
    ((∀ a, b.contains a ↔ b.value ≤ a ∧ a ≤ b.broadcast) ↔ ∃ length, b.prefixLength? = some length) := by
  refine ⟨b.contains_value, b.contains_broadcast, fun a => between_of_contains, ?_⟩
  constructor
  · intro hrange
    rw [← Option.isSome_iff_exists, Option.isSome_iff_ne_none]
    intro hnone
    obtain ⟨a, hlow, hhigh, hout⟩ := exists_between_not_contains hnone
    exact hout ((hrange a).2 ⟨hlow, hhigh⟩)
  · rintro ⟨length, hlength⟩ a
    obtain ⟨_, hones⟩ := Address.prefixLength?_eq_some hlength
    refine ⟨between_of_contains, ?_⟩
    rintro ⟨hlow, hhigh⟩
    exact contains_of_between (Address.leadingOnes_iff.1 hones) hlow hhigh

theorem between_of_striped_mask :
    (ofMask (.ofNat .v4 0xc0001100) (.ofNat .v4 0xff00ff00)).contains (.ofNat .v4 0xc0071109) ∧
    (ofMask (.ofNat .v4 0xc0001100) (.ofNat .v4 0xff00ff00)).value ≤ .ofNat .v4 0xc0071109 ∧
    .ofNat .v4 0xc0071109 ≤ (ofMask (.ofNat .v4 0xc0001100) (.ofNat .v4 0xff00ff00)).broadcast := by
  have hcontains : (ofMask (.ofNat .v4 0xc0001100) (.ofNat .v4 0xff00ff00)).contains (.ofNat .v4 0xc0071109) := by
    decide
  exact ⟨hcontains, (contains_iff_between _).2.2.1 _ hcontains⟩

end Inet.Block
