import Inet.Address.Basic
import Inet.Error

/-!
Masks are addresses too. The mask of a prefix length has that many leading ones and zeros after them; a mask of this
form is contiguous, and `prefixLength?` gives its length back.
-/

namespace Inet.Address

variable {f : Family}

def noMask (f : Family) : Address f := unspecified f

def fullMask (f : Family) : Address f := allOnes f

/-- As many leading ones as asked for, and no more than there are bits. Without ones the shift would be as wide as the
address, so that mask is a case of its own. -/
def prefixMask (f : Family) (length : Nat) : Address f :=
  if length = 0 then noMask f else ⟨BitVec.allOnes f.width <<< (f.width - length)⟩

def prefixMask? (f : Family) (length : Nat) : Except PrefixLengthError (Address f) :=
  if f.width < length then .error ⟨length, f.width⟩ else .ok (prefixMask f length)

def leadingOnes (a : Address f) : Nat := ((List.range f.width).takeWhile a.bits.getMsbD).length

def prefixLength? (a : Address f) : Option Nat :=
  if prefixMask f a.leadingOnes = a then some a.leadingOnes else none

theorem prefixMask_eq_shift (f : Family) (length : Nat) :
    prefixMask f length = ⟨BitVec.allOnes f.width <<< (f.width - length)⟩ := by
  unfold prefixMask
  split
  next h =>
    subst h
    ext i
    simp [noMask, unspecified]
  next => rfl

theorem prefixMask_of_width_le {length : Nat} (h : f.width ≤ length) : prefixMask f length = fullMask f := by
  simp [prefixMask_eq_shift, fullMask, allOnes, Nat.sub_eq_zero_of_le h]

theorem getMsbD_prefixMask {length i : Nat} (hi : i < f.width) :
    (prefixMask f length).bits.getMsbD i = decide (i < length) := by
  simp [prefixMask_eq_shift, BitVec.getMsbD_shiftLeft]
  omega

end Inet.Address
