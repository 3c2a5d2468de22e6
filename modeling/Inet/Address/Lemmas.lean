import Mathlib.Algebra.Order.Ring.Nat
import Inet.Address.Positional
import Inet.Numeral.Lemmas

/-!
The views of an address. Its number, its components, its octets and its groups each determine the address and are
determined by it.
-/

namespace Inet

namespace Family

theorem octets_pow (f : Family) : 256 ^ f.octetCount = 2 ^ f.width := by
  cases f <;> rfl

theorem components_pow (f : Family) : f.componentBase ^ f.componentCount = 2 ^ f.width := by
  cases f <;> rfl

end Family

namespace Address

variable {f : Family}

theorem toNat_lt (a : Address f) : a.toNat < 2 ^ f.width := a.bits.isLt

theorem toNat_ofNat {n : Nat} (h : n < 2 ^ f.width) : (ofNat f n).toNat = n := by
  simp [ofNat, toNat, Nat.mod_eq_of_lt h]

theorem ofNat_value_digits {base count : Nat} (hpow : base ^ count = 2 ^ f.width) (a : Address f) :
    ofNat f (Numeral.value base (Numeral.digits base count a.toNat)) = a := by
  have hlt : a.toNat < base ^ count := hpow ▸ a.toNat_lt
  rw [Numeral.value_digits hlt, ofNat_toNat]

theorem digits_ofNat_value {base count : Nat} (hpow : base ^ count = 2 ^ f.width) {ds : List Nat}
    (hlen : ds.length = count) (h : ∀ d ∈ ds, d < base) :
    Numeral.digits base count (ofNat f (Numeral.value base ds)).toNat = ds := by
  have hlt : Numeral.value base ds < 2 ^ f.width := by
    rw [← hpow, ← hlen]
    exact Numeral.value_lt h
  rw [toNat_ofNat hlt, ← hlen, Numeral.digits_value h]

theorem ofComponents_components (a : Address f) : ofComponents f a.components = a :=
  ofNat_value_digits f.components_pow a

theorem components_ofComponents {cs : List Nat} (hlen : cs.length = f.componentCount)
    (h : ∀ c ∈ cs, c < f.componentBase) : (ofComponents f cs).components = cs :=
  digits_ofNat_value f.components_pow hlen h

theorem map_toNat_octets (a : Address f) :
    a.octets.toList.map UInt8.toNat = Numeral.digits 256 f.octetCount a.toNat := by
  have hsmall : ∀ d ∈ Numeral.digits 256 f.octetCount a.toNat, (UInt8.toNat ∘ UInt8.ofNat) d = id d := fun d hd =>
    UInt8.toNat_ofNat_of_lt (Numeral.lt_of_mem_digits (by decide) hd)
  rw [toList_octets, List.map_map, List.map_congr_left hsmall, List.map_id]

theorem value_octets (a : Address f) : Numeral.value 256 (a.octets.toList.map UInt8.toNat) = a.toNat := by
  rw [map_toNat_octets]
  exact Numeral.value_digits (f.octets_pow ▸ a.toNat_lt)

theorem ofOctets_octets (a : Address f) : ofOctets a.octets = a := by
  rw [ofOctets, value_octets, ofNat_toNat]

theorem lt_of_mem_octets (os : List UInt8) : ∀ d ∈ os.map UInt8.toNat, d < 256 := by
  intro d hd
  obtain ⟨o, _, rfl⟩ := List.mem_map.1 hd
  exact o.toNat_lt

theorem octets_ofOctets (os : Vector UInt8 f.octetCount) : (ofOctets os).octets = os := by
  apply Vector.toList_inj.1
  rw [toList_octets, ofOctets, digits_ofNat_value f.octets_pow (by simp) (lt_of_mem_octets os.toList)]
  simp [Function.comp_def]

theorem map_toNat_groups (a : Address .v6) : a.groups.toList.map UInt16.toNat = a.components := by
  have hsmall : ∀ d ∈ Numeral.digits 65536 8 a.toNat, (UInt16.toNat ∘ UInt16.ofNat) d = id d := fun d hd =>
    UInt16.toNat_ofNat_of_lt (Numeral.lt_of_mem_digits (by decide) hd)
  rw [toList_groups, List.map_map, List.map_congr_left hsmall, List.map_id]
  rfl

theorem ofGroups_groups (a : Address .v6) : ofGroups a.groups = a := by
  rw [ofGroups, map_toNat_groups]
  exact ofComponents_components a

theorem groups_ofGroups (gs : Vector UInt16 8) : (ofGroups gs).groups = gs := by
  have hsmall : ∀ d ∈ gs.toList.map UInt16.toNat, d < 65536 := by
    intro d hd
    obtain ⟨g, _, rfl⟩ := List.mem_map.1 hd
    exact g.toNat_lt
  have hdigits : Numeral.digits 65536 8 (ofGroups gs).toNat = gs.toList.map UInt16.toNat :=
    digits_ofNat_value Family.v6.components_pow (by simp [Family.componentCount]) hsmall
  apply Vector.toList_inj.1
  rw [toList_groups, hdigits]
  simp [Function.comp_def]

end Address

end Inet
