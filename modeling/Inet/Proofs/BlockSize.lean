import Mathlib.Data.Fintype.BigOperators
import Mathlib.Data.Fintype.Fin
import Mathlib.Data.Set.Card
import Inet.Proofs.BlockInclusion

/-!
How many addresses a block has. An address is a choice of each of its bits. A block fixes the bits under its mask and
leaves the others free, so every zero of the mask doubles the number of members.
-/

namespace Inet

variable {f : Family}

namespace Address

variable {m : Address f}

def zeros (m : Address f) : Finset (Fin f.width) := {i | m.bits[i] = false}

theorem mem_zeros {i : Fin f.width} : i ∈ m.zeros ↔ m.bits[i] = false := by
  simp [zeros]

theorem getElem_ofNat {n i : Nat} (hi : i < f.width) : (ofNat f n).bits[i] = n.testBit i := by
  rw [ofNat, ← BitVec.getLsbD_eq_getElem hi, BitVec.getLsbD_ofNat, decide_eq_true hi, Bool.true_and]

/-- An address is a choice of each of its bits. -/
def bitsEquiv (f : Family) : Address f ≃ (Fin f.width → Bool) where
  toFun a i := a.bits[i]
  invFun choice := ofNat f (Nat.ofBits choice)
  left_inv a := by
    ext i hi
    rw [getElem_ofNat hi, Nat.testBit_ofBits_lt _ _ hi]
    rfl
  right_inv choice := by
    funext i
    exact (getElem_ofNat i.isLt).trans (Nat.testBit_ofBits_lt _ _ i.isLt)

theorem card_zeros_prefixMask (f : Family) (count : Nat) : (prefixMask f count).zeros.card = f.width - count := by
  have hones : (prefixMask f count).LeadingOnes count := leadingOnes_iff.2 rfl
  have hzeros : (prefixMask f count).zeros = Finset.univ.filter fun i => i.val < f.width - count := by
    ext i
    have hbit := hones.getLsbD i.isLt
    rw [BitVec.getLsbD_eq_getElem i.isLt] at hbit
    simp only [mem_zeros, Finset.mem_filter, Finset.mem_univ, true_and, Fin.getElem_fin, hbit, decide_eq_false_iff_not]
    omega
  rw [hzeros, Fin.card_filter_val_lt]
  exact Nat.min_eq_right (Nat.sub_le _ _)

end Address

namespace Block

/-- What a block leaves to choose for a bit: nothing under the mask, and elsewhere both. -/
def choices (b : Block f) (i : Fin f.width) : Finset Bool := if b.mask.bits[i] then {b.value.bits[i]} else Finset.univ

theorem card_choices (b : Block f) (i : Fin f.width) : (b.choices i).card = if i ∈ b.mask.zeros then 2 else 1 := by
  simp only [choices, Address.mem_zeros]
  cases b.mask.bits[i] <;> rfl

theorem mem_choices {b : Block f} {a : Address f} {i : Fin f.width} :
    a.bits[i] ∈ b.choices i ↔ (a &&& b.mask).bits[i] = b.value.bits[i] := by
  have hvalue : (b.value &&& b.mask).bits[i] = b.value.bits[i] := by rw [b.normalised]
  rw [choices]
  simp only [Address.bits_and, Fin.getElem_fin, BitVec.getElem_and] at hvalue ⊢
  cases hmask : b.mask.bits[i.val] with
  | true => simp
  | false =>
    rw [hmask, Bool.and_false] at hvalue
    simp [← hvalue]

theorem contains_iff_choices {b : Block f} {a : Address f} :
    b.contains a ↔ Address.bitsEquiv f a ∈ Fintype.piFinset b.choices := by
  rw [contains_iff, Fintype.mem_piFinset]
  constructor
  · intro h i
    apply mem_choices.2
    rw [h]
  · intro h
    ext i hi
    exact mem_choices.1 (h ⟨i, hi⟩)

theorem ncard_members (b : Block f) : {a | b.contains a}.ncard = 2 ^ b.mask.zeros.card := by
  have himage : Address.bitsEquiv f '' {a | b.contains a} = Fintype.piFinset b.choices := by
    rw [Equiv.image_eq_preimage_symm]
    ext choice
    simp [contains_iff_choices]
  rw [← Set.ncard_image_of_injective _ (Address.bitsEquiv f).injective, himage, Set.ncard_coe_finset,
    Fintype.card_piFinset]
  simp only [card_choices]
  rw [Finset.prod_ite_mem, Finset.univ_inter, Finset.prod_const]

/-- Every zero of a mask doubles the addresses of a block under it, so a prefix block has as many addresses as the bits
after the prefix can tell apart. -/
theorem ncard_contains (a : Address f) :
    (∀ m : Address f, {x | (ofMask a m).contains x}.ncard = 2 ^ m.zeros.card) ∧
    ∀ p ≤ f.width, ∃ b, ofPrefixLength a p = .ok b ∧ {x | b.contains x}.ncard = 2 ^ (f.width - p) := by
  refine ⟨fun m => ncard_members (ofMask a m), fun p hp => ?_⟩
  refine ⟨ofMask a (Address.prefixMask f p), ofPrefixLength_eq_ok hp a, ?_⟩
  rw [ncard_members, ← Address.card_zeros_prefixMask f p]
  rfl

theorem ncard_contains_of_length_23 :
    23 ≤ Family.v4.width ∧ ∃ b, ofPrefixLength (.ofNat .v4 0x0a010203) 23 = .ok b ∧ {x | b.contains x}.ncard = 512 := by
  have hp : 23 ≤ Family.v4.width := by decide
  exact ⟨hp, (ncard_contains (.ofNat .v4 0x0a010203)).2 23 hp⟩

end Block

end Inet
