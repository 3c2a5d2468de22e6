import Mathlib.Data.Set.Subsingleton
import Mathlib.Order.Lattice
import Mathlib.Tactic.ByContra
import Mathlib.Tactic.SplitIfs
import Inet.Address.Lemmas
import Inet.Address.Mask

/-!
Masks bit by bit, and what masking does to the order. A contiguous mask is known by its leading ones, and keeps the
order of addresses when it is applied to them. Any other mask has a one below some zero. An address is recognised as
a mask exactly when it is contiguous.
-/

namespace Inet.Address

variable {f : Family} {a b m n : Address f} {count : Nat}

theorem and_le_left (a b : Address f) : a &&& b ≤ a := le_iff.2 Nat.and_le_left

theorem le_or_left (a b : Address f) : a ≤ a ||| b := le_iff.2 Nat.left_le_or

theorem le_antisymm (hab : a ≤ b) (hba : b ≤ a) : a = b :=
  toNat_inj.1 (Nat.le_antisymm (le_iff.1 hab) (le_iff.1 hba))

theorem and_and_of_subset (h : n &&& m = n) (a : Address f) : a &&& m &&& n = a &&& n := by
  rw [Address.and_assoc, Address.and_comm m, h]

theorem and_not_eq_unspecified_iff : a &&& ~~~m = unspecified f ↔ a &&& m = a := by
  constructor
  · intro h
    ext i hi
    have hbit : (a &&& ~~~m).bits[i] = (unspecified f).bits[i] := by rw [h]
    simpa [unspecified] using hbit
  · intro h
    rw [← h]
    ext i hi
    simp [unspecified]

theorem two_pow_le_toNat_not {i : Nat} (hi : i < f.width) (hzero : m.bits.getLsbD i = false) :
    2 ^ i ≤ (~~~m).toNat := by
  have hone : (~~~m).bits.getLsbD i = true := by
    rw [bits_not, BitVec.getLsbD_not, hzero, decide_eq_true hi]
    rfl
  exact Nat.ge_two_pow_of_testBit hone

theorem getLsbD_ofNat_two_pow_add {i : Nat} (h : 2 ^ i + a.toNat < 2 ^ f.width) :
    (ofNat f (2 ^ i + a.toNat)).bits.getLsbD i = !a.bits.getLsbD i := by
  have hsum : (ofNat f (2 ^ i + a.toNat)).toNat = 2 ^ i + a.toNat := toNat_ofNat h
  change (ofNat f (2 ^ i + a.toNat)).toNat.testBit i = _
  rw [hsum, Nat.testBit_two_pow_add_eq]
  rfl

def LeadingOnes (m : Address f) (count : Nat) : Prop := ∀ i < f.width, m.bits.getMsbD i = decide (i < count)

theorem leadingOnes_iff : m.LeadingOnes count ↔ m = prefixMask f count := by
  constructor
  · intro h
    ext1
    apply BitVec.eq_of_getMsbD_eq
    intro i hi
    rw [h i hi, getMsbD_prefixMask hi]
  · rintro rfl i hi
    exact getMsbD_prefixMask hi

theorem prefixMask_and_prefixMask (f : Family) (p q : Nat) :
    prefixMask f p &&& prefixMask f q = prefixMask f (min p q) := by
  rw [← leadingOnes_iff]
  intro i hi
  rw [bits_and, BitVec.getMsbD_and, getMsbD_prefixMask hi, getMsbD_prefixMask hi, ← Bool.decide_and]
  simp only [lt_min_iff]

/-- Masking with leading ones rounds down to a multiple of a power of two. -/
theorem toNat_and_prefixMask (a : Address f) (count : Nat) :
    (a &&& prefixMask f count).toNat = a.toNat / 2 ^ (f.width - count) * 2 ^ (f.width - count) := by
  have hshift : a.bits &&& BitVec.allOnes f.width <<< (f.width - count) =
      a.bits >>> (f.width - count) <<< (f.width - count) := by
    apply BitVec.eq_of_getLsbD_eq
    intro i hi
    rw [BitVec.getLsbD_and, BitVec.getLsbD_shiftLeft, BitVec.getLsbD_shiftLeft, BitVec.getLsbD_ushiftRight]
    by_cases hlow : i < f.width - count
    · simp [hlow]
    · have hback : f.width - count + (i - (f.width - count)) = i := by omega
      have hin : i - (f.width - count) < f.width := by omega
      simp [hlow, hback, hin, hi]
  have hlt : a.toNat / 2 ^ (f.width - count) * 2 ^ (f.width - count) < 2 ^ f.width :=
    (Nat.div_mul_le_self _ _).trans_lt a.toNat_lt
  rw [prefixMask_eq_shift, toNat, bits_and, hshift, BitVec.toNat_shiftLeft, BitVec.toNat_ushiftRight,
    Nat.shiftRight_eq_div_pow, Nat.shiftLeft_eq]
  exact Nat.mod_eq_of_lt hlt

theorem and_prefixMask_mono (h : a ≤ b) (count : Nat) : a &&& prefixMask f count ≤ b &&& prefixMask f count := by
  rw [le_iff, toNat_and_prefixMask, toNat_and_prefixMask]
  exact Nat.mul_le_mul_right _ (Nat.div_le_div_right (le_iff.1 h))

theorem leadingOnes_eq_findIdx (m : Address f) :
    m.leadingOnes = (List.range f.width).findIdx fun i => !m.bits.getMsbD i := by
  rw [leadingOnes, List.takeWhile_eq_take_findIdx_not, List.length_take]
  exact Nat.min_eq_left List.findIdx_le_length

theorem leadingOnes_le (m : Address f) : m.leadingOnes ≤ f.width := by
  have hle := (List.takeWhile_sublist (l := List.range f.width) m.bits.getMsbD).length_le
  rwa [List.length_range] at hle

theorem getMsbD_of_lt_leadingOnes {i : Nat} (h : i < m.leadingOnes) : m.bits.getMsbD i = true := by
  rw [leadingOnes_eq_findIdx] at h
  simpa using List.not_of_lt_findIdx h

theorem getMsbD_leadingOnes (h : m.leadingOnes < f.width) : m.bits.getMsbD m.leadingOnes = false := by
  have hlt : (List.range f.width).findIdx (fun i => !m.bits.getMsbD i) < (List.range f.width).length := by
    rwa [← leadingOnes_eq_findIdx, List.length_range]
  have hzero := List.findIdx_getElem (w := hlt)
  rw [List.getElem_range, ← leadingOnes_eq_findIdx] at hzero
  simpa using hzero

theorem prefixLength?_eq_some {length : Nat} (h : m.prefixLength? = some length) :
    length ≤ f.width ∧ m.LeadingOnes length := by
  unfold prefixLength? at h
  split_ifs at h with hmask
  cases h
  exact ⟨m.leadingOnes_le, leadingOnes_iff.2 hmask.symm⟩

theorem exists_stray_bit (h : m.prefixLength? = none) :
    ∃ low high, low < high ∧ high < f.width ∧ m.bits.getLsbD low = true ∧ m.bits.getLsbD high = false := by
  unfold prefixLength? at h
  split_ifs at h with hmask
  have hones : ¬ m.LeadingOnes m.leadingOnes := fun hones => hmask (leadingOnes_iff.1 hones).symm
  simp only [LeadingOnes, not_forall] at hones
  obtain ⟨i, hi, hbit⟩ := hones
  -- The bit that is not as it should be stands after the leading ones, so it is a one, and not the first zero.
  have hle : m.leadingOnes ≤ i := by
    by_contra hlt
    rw [not_le] at hlt
    exact hbit (by rw [getMsbD_of_lt_leadingOnes hlt, decide_eq_true hlt])
  have hone : m.bits.getMsbD i = true := by
    rw [decide_eq_false (Nat.not_lt.2 hle)] at hbit
    exact Bool.eq_true_of_not_eq_false hbit
  have hfirst : m.leadingOnes < f.width := hle.trans_lt hi
  have hzero : m.bits.getMsbD m.leadingOnes = false := getMsbD_leadingOnes hfirst
  have hlt : m.leadingOnes < i := by
    apply lt_of_le_of_ne hle
    intro heq
    rw [heq, hone] at hzero
    cases hzero
  refine ⟨f.width - 1 - i, f.width - 1 - m.leadingOnes, by omega, by omega, ?_, ?_⟩
  · rwa [BitVec.getMsbD, decide_eq_true hi, Bool.true_and] at hone
  · rwa [BitVec.getMsbD, decide_eq_true hfirst, Bool.true_and] at hzero

theorem LeadingOnes.getLsbD {i : Nat} (h : m.LeadingOnes count) (hi : i < f.width) :
    m.bits.getLsbD i = decide (f.width ≤ i + count) := by
  have hback : f.width - 1 - (f.width - 1 - i) = i := by omega
  have hbit := h (f.width - 1 - i) (by omega)
  rw [BitVec.getMsbD, decide_eq_true (by omega), Bool.true_and, hback] at hbit
  rw [hbit, decide_eq_decide]
  omega

theorem LeadingOnes.no_stray_bit (h : m.LeadingOnes count) :
    ¬ ∃ low high, low < high ∧ high < f.width ∧ m.bits.getLsbD low = true ∧ m.bits.getLsbD high = false := by
  rintro ⟨low, high, hlt, hhigh, hone, hzero⟩
  rw [h.getLsbD (hlt.trans hhigh), decide_eq_true_iff] at hone
  rw [h.getLsbD hhigh, decide_eq_false_iff_not] at hzero
  omega

theorem LeadingOnes.le_of_le {count' : Nat} (h : m.LeadingOnes count) (h' : m.LeadingOnes count')
    (hle : count ≤ f.width) : count ≤ count' := by
  by_contra hlt
  rw [not_le] at hlt
  have hbit := h count' (hlt.trans_le hle)
  rw [h' count' (hlt.trans_le hle), decide_eq_decide] at hbit
  exact Nat.lt_irrefl _ (hbit.2 hlt)

theorem subsingleton_leadingOnes (m : Address f) : {count | count ≤ f.width ∧ m.LeadingOnes count}.Subsingleton := by
  rintro p ⟨hp, hones⟩ q ⟨hq, hones'⟩
  exact Nat.le_antisymm (hones.le_of_le hones' hp) (hones'.le_of_le hones hq)

theorem prefixLength?_eq_some_iff {length : Nat} :
    m.prefixLength? = some length ↔ length ≤ f.width ∧ m.LeadingOnes length := by
  constructor
  · exact prefixLength?_eq_some
  · intro h
    cases hlength : m.prefixLength? with
    | none => exact absurd (exists_stray_bit hlength) h.2.no_stray_bit
    | some found => rw [m.subsingleton_leadingOnes (prefixLength?_eq_some hlength) h]

theorem prefixLength?_eq_none_iff : m.prefixLength? = none ↔
    ∃ low high, low < high ∧ high < f.width ∧ m.bits.getLsbD low = true ∧ m.bits.getLsbD high = false := by
  constructor
  · exact exists_stray_bit
  · intro hstray
    rw [Option.eq_none_iff_forall_ne_some]
    intro length hlength
    exact (prefixLength?_eq_some hlength).2.no_stray_bit hstray

theorem prefixMask?_eq_ok_iff {length : Nat} :
    prefixMask? f length = .ok m ↔ length ≤ f.width ∧ m.LeadingOnes length := by
  unfold prefixMask?
  split_ifs with hlong
  · simp [hlong]
  · rw [Except.ok.injEq, leadingOnes_iff, and_iff_right (not_lt.1 hlong), eq_comm]

/-- An address is recognised as the mask of a prefix length exactly when it is made from that length, and is refused
exactly when a one stands below a zero. -/
theorem prefixLength?_exact (a : Address f) :
    (∀ p, a.prefixLength? = some p ↔ p ≤ f.width ∧ a.LeadingOnes p) ∧
    (∀ p, a.prefixLength? = some p ↔ prefixMask? f p = .ok a) ∧
    (a.prefixLength? = none ↔
      ∃ low high, low < high ∧ high < f.width ∧ a.bits.getLsbD low = true ∧ a.bits.getLsbD high = false) ∧
    {p | p ≤ f.width ∧ a.LeadingOnes p}.Subsingleton := by
  refine ⟨fun p => prefixLength?_eq_some_iff, fun p => ?_, prefixLength?_eq_none_iff, a.subsingleton_leadingOnes⟩
  rw [prefixLength?_eq_some_iff, prefixMask?_eq_ok_iff]

end Inet.Address
