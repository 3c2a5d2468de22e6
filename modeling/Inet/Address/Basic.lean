import Inet.Family

/-!
Addresses. An address is one word as wide as its family says. Bitwise operations and the order are those of the word.
-/

namespace Inet

@[ext] structure Address (f : Family) where
  bits : BitVec f.width
  deriving DecidableEq, Repr

namespace Address

variable {f : Family}

def ofNat (f : Family) (n : Nat) : Address f := ⟨BitVec.ofNat _ n⟩

def toNat (a : Address f) : Nat := a.bits.toNat

theorem ofNat_toNat (a : Address f) : ofNat f a.toNat = a := by
  simp [ofNat, toNat]

theorem toNat_inj {a b : Address f} : a.toNat = b.toNat ↔ a = b := by
  rw [toNat, toNat, ← BitVec.toNat_eq, Address.ext_iff]

instance : AndOp (Address f) := ⟨fun a b => ⟨a.bits &&& b.bits⟩⟩

instance : OrOp (Address f) := ⟨fun a b => ⟨a.bits ||| b.bits⟩⟩

instance : Complement (Address f) := ⟨fun a => ⟨~~~a.bits⟩⟩

@[simp] theorem bits_and (a b : Address f) : (a &&& b).bits = a.bits &&& b.bits := rfl

@[simp] theorem bits_or (a b : Address f) : (a ||| b).bits = a.bits ||| b.bits := rfl

@[simp] theorem bits_not (a : Address f) : (~~~a).bits = ~~~a.bits := rfl

protected theorem and_comm (a b : Address f) : a &&& b = b &&& a := Address.ext (BitVec.and_comm a.bits b.bits)

protected theorem and_assoc (a b c : Address f) : a &&& b &&& c = a &&& (b &&& c) :=
  Address.ext (BitVec.and_assoc a.bits b.bits c.bits)

def unspecified (f : Family) : Address f := ⟨0#f.width⟩

def allOnes (f : Family) : Address f := ⟨BitVec.allOnes f.width⟩

def isUnspecified (a : Address f) : Bool := a == unspecified f

def isBroadcast (a : Address f) : Bool := a == allOnes f

instance : Ord (Address f) := ⟨fun a b => compare a.toNat b.toNat⟩

instance : LT (Address f) := ltOfOrd

instance : LE (Address f) := leOfOrd

theorem lt_iff {a b : Address f} : a < b ↔ a.toNat < b.toNat := Nat.compare_eq_lt

theorem le_iff {a b : Address f} : a ≤ b ↔ a.toNat ≤ b.toNat := Nat.isLE_compare

end Address

end Inet
