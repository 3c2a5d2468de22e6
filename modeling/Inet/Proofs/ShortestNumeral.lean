import Mathlib.Data.List.Induction
import Inet.Proofs.Spelling

/-!
Shortest numerals. Of all spellings of a number one has no zeros in front and no capitals, and that is the one that
numbers are written with.
-/

namespace Inet.Numeral

variable {base : Nat} {c : Char} {cs : List Char} {d n : Nat}

/-- The characters spell the number in small letters and without zeros in front. -/
structure Shortest (base : Nat) (cs : List Char) (n : Nat) : Prop where
  spells : Spells base cs n
  nonempty : cs ≠ []
  small : ∀ c ∈ cs, c.isUpper = false
  no_zeros : cs.head? = some '0' → cs = ['0']

theorem Writes.eq_digitChar (h : Writes base c d) (hbase : base ≤ 16) (hsmall : c.isUpper = false) :
    c = d.digitChar := by
  obtain ⟨hd, rfl | rfl⟩ := h
  · rfl
  · have hlt : d < 16 := hd.trans_le hbase
    clear hd
    revert hsmall
    interval_cases d <;> decide

theorem isUpper_digitChar (hd : d < 16) : d.digitChar.isUpper = false := by
  interval_cases d <;> rfl

theorem Spells.exists_of_concat (h : Spells base (cs ++ [c]) n) :
    ∃ m d, Spells base cs m ∧ Writes base c d ∧ n = m * base + d := by
  obtain ⟨ds, hds, rfl⟩ := h
  rw [← List.forall₂_reverse_iff, List.reverse_append, List.reverse_singleton, List.singleton_append] at hds
  rcases List.eq_nil_or_concat' ds with rfl | ⟨ds, d, rfl⟩
  · cases hds
  · rw [List.reverse_append, List.reverse_singleton, List.singleton_append] at hds
    cases hds with
    | cons hd hds => exact ⟨_, d, ⟨ds, List.forall₂_reverse_iff.1 hds, rfl⟩, hd, value_append_singleton base d ds⟩

theorem toDigits_concat {m : Nat} (hbase : 1 < base) (hm : m ≠ 0) (hd : d < base) :
    Nat.toDigits base (m * base + d) = Nat.toDigits base m ++ [d.digitChar] := by
  have hsplit := Nat.toDigits_append_toDigits hbase (Nat.pos_of_ne_zero hm) hd
  rw [Nat.toDigits_of_lt_base hd] at hsplit
  rw [hsplit, Nat.mul_comm]

namespace Shortest

theorem eq_zero (h : Shortest base cs n) (hbase : 1 < base) (hle : base ≤ 16) (hzero : cs.head? = some '0') :
    n = 0 := by
  have hspells : Spells base ['0'] n := h.no_zeros hzero ▸ h.spells
  have hwrites : Writes base '0' 0 := ⟨Nat.zero_lt_of_lt hbase, .inl rfl⟩
  have hnought : Spells base ['0'] 0 := by simpa using Spells.nil.snoc hwrites
  exact hspells.unique hle hnought

theorem toDigits (hbase : 1 < base) (hle : base ≤ 16) (n : Nat) : Shortest base (Nat.toDigits base n) n := by
  induction n using Nat.strongRecOn with
  | _ n ih =>
    have hspells : Spells base (Nat.toDigits base n) n := .toDigits hbase n
    rcases Nat.lt_or_ge n base with hn | hn
    · have hlt : n < 16 := hn.trans_le hle
      rw [Nat.toDigits_of_lt_base hn] at hspells ⊢
      refine ⟨hspells, List.cons_ne_nil _ _, ?_, ?_⟩
      · exact List.forall_mem_singleton.2 (isUpper_digitChar hlt)
      · intro hzero
        rw [Option.some.inj hzero]
    · have hmod : n % base < base := Nat.mod_lt n (Nat.zero_lt_of_lt hbase)
      have hdiv : n / base ≠ 0 := (Nat.div_pos hn (Nat.zero_lt_of_lt hbase)).ne'
      have hlt : n / base < n := Nat.div_lt_self (by omega) hbase
      have hshort := ih (n / base) hlt
      have hconcat := toDigits_concat hbase hdiv hmod
      rw [Nat.div_add_mod'] at hconcat
      rw [hconcat] at hspells ⊢
      refine ⟨hspells, by simp, ?_, ?_⟩
      · rw [List.forall_mem_append]
        exact ⟨hshort.small, List.forall_mem_singleton.2 (isUpper_digitChar (hmod.trans_le hle))⟩
      · -- The digits in front are those of a number that is not zero, so they have no zero in front.
        intro hzero
        rw [List.head?_append_of_ne_nil _ hshort.nonempty] at hzero
        exact absurd (hshort.eq_zero hbase hle hzero) hdiv

theorem eq_toDigits (h : Shortest base cs n) (hbase : 1 < base) (hle : base ≤ 16) : cs = Nat.toDigits base n := by
  induction cs using List.reverseRecOn generalizing n with
  | nil => exact absurd rfl h.nonempty
  | append_singleton cs c ih =>
    obtain ⟨m, d, hcs, hc, rfl⟩ := h.spells.exists_of_concat
    have hchar : c = d.digitChar := hc.eq_digitChar hle (h.small c (by simp))
    rcases eq_or_ne cs [] with rfl | hne
    · have hm : m = 0 := hcs.unique hle .nil
      rw [hm, Nat.zero_mul, Nat.zero_add, Nat.toDigits_of_lt_base hc.1, hchar, List.nil_append]
    · have hfront : cs.head? ≠ some '0' := by
        intro hzero
        rw [← List.head?_append_of_ne_nil _ hne] at hzero
        have hlen := congrArg List.length (h.no_zeros hzero)
        simp [hne] at hlen
      have hsmall : ∀ c ∈ cs, c.isUpper = false := fun c hc => h.small c (List.mem_append_left _ hc)
      have hdigits : cs = Nat.toDigits base m := ih ⟨hcs, hne, hsmall, fun hzero => absurd hzero hfront⟩
      have hm : m ≠ 0 := by
        rintro rfl
        rw [hdigits, Nat.toDigits_of_lt_base (Nat.zero_lt_of_lt hbase)] at hfront
        exact hfront rfl
      rw [toDigits_concat hbase hm hc.1, ← hdigits, hchar]

end Shortest

theorem shortest_iff (hbase : 1 < base) (hle : base ≤ 16) : Shortest base cs n ↔ cs = Nat.toDigits base n := by
  constructor
  · exact fun h => h.eq_toDigits hbase hle
  · rintro rfl
    exact .toDigits hbase hle n

end Inet.Numeral
