import Inet.Address.Basic
import Inet.Error
import Inet.Numeral

/-!
An address as a list of digits. The octets of an address, the groups of a v6 address and the components of the text
are the digits of its one number in different bases, most significant first.
-/

namespace Inet.Address

variable {f : Family}

def components (a : Address f) : List Nat := Numeral.digits f.componentBase f.componentCount a.toNat

def ofComponents (f : Family) (cs : List Nat) : Address f := ofNat f (Numeral.value f.componentBase cs)

@[simp] theorem length_components (a : Address f) : a.components.length = f.componentCount := by
  simp [components]

def octets (a : Address f) : Vector UInt8 f.octetCount :=
  ⟨((Numeral.digits 256 f.octetCount a.toNat).map UInt8.ofNat).toArray, by simp⟩

def ofOctets (os : Vector UInt8 f.octetCount) : Address f :=
  ofNat f (Numeral.value 256 (os.toList.map UInt8.toNat))

theorem toList_octets (a : Address f) :
    a.octets.toList = (Numeral.digits 256 f.octetCount a.toNat).map UInt8.ofNat := rfl

def groups (a : Address .v6) : Vector UInt16 8 :=
  ⟨((Numeral.digits 65536 8 a.toNat).map UInt16.ofNat).toArray, by simp⟩

def ofGroups (gs : Vector UInt16 8) : Address .v6 :=
  ofNat .v6 (Numeral.value 65536 (gs.toList.map UInt16.toNat))

theorem toList_groups (a : Address .v6) : a.groups.toList = (Numeral.digits 65536 8 a.toNat).map UInt16.ofNat := rfl

def ofOctets? (f : Family) (os : List UInt8) : Except LengthError (Address f) :=
  if h : os.length = f.octetCount then .ok (ofOctets ⟨os.toArray, by simp [h]⟩)
  else .error ⟨f.octetCount, os.length⟩

end Inet.Address
