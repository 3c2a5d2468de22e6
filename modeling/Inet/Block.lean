import Inet.Address.Mask

/-!
Blocks of addresses. A block is a mask together with the bits that its members have under that mask; the mask need
not be contiguous. The value of a block is always normalised: it has no bit outside the mask, so equal blocks are
those with equal value and mask.
-/

namespace Inet

@[ext] structure Block (f : Family) where
  value : Address f
  mask : Address f
  normalised : value &&& mask = value
  deriving DecidableEq, Repr

namespace Block

variable {f : Family}

def ofMask (a mask : Address f) : Block f where
  value := a &&& mask
  mask := mask
  normalised := by
    ext i
    simp

def ofPrefixLength (a : Address f) (length : Nat) : Except PrefixLengthError (Block f) :=
  (Address.prefixMask? f length).map (ofMask a)

def single (a : Address f) : Block f := ofMask a (Address.fullMask f)

def contains (b : Block f) (a : Address f) : Bool := a &&& b.mask == b.value

def broadcast (b : Block f) : Address f := b.value ||| ~~~b.mask

def prefixLength? (b : Block f) : Option Nat := b.mask.prefixLength?

instance : Ord (Block f) := ⟨fun b c => (compare b.value c.value).then (compare b.mask c.mask)⟩

instance : LT (Block f) := ltOfOrd

instance : LE (Block f) := leOfOrd

theorem le_iff {b c : Block f} : b ≤ c ↔ b.value < c.value ∨ b.value = c.value ∧ b.mask ≤ c.mask := by
  have heq : compare b.value c.value = .eq ↔ b.value = c.value := Nat.compare_eq_eq.trans Address.toNat_inj
  change ((compare b.value c.value).then (compare b.mask c.mask)).isLE ↔ _
  rw [Ordering.isLE_then_iff_or, heq]
  rfl

theorem contains_iff (b : Block f) (a : Address f) : b.contains a ↔ a &&& b.mask = b.value := by
  simp [contains]

theorem ofMask_eq_iff_contains (b : Block f) (a : Address f) : ofMask a b.mask = b ↔ b.contains a := by
  rw [contains_iff, Block.ext_iff]
  exact and_iff_left rfl

theorem ofMask_value_mask (b : Block f) : ofMask b.value b.mask = b := Block.ext b.normalised rfl

end Block

end Inet
