import Mathlib.Algebra.Order.Ring.Nat
import Mathlib.Data.List.Forall2
import Mathlib.Tactic.IntervalCases
import Inet.Numeral.Lemmas

/-!
Numerals spelled by characters. A list of characters spells a number in a base up to sixteen when its characters
write the digits of that number; leading zeros are allowed, and letters of either case. Readers accept spellings and
writers produce them.
-/

namespace Inet.Numeral

variable {base : Nat} {c : Char} {cs : List Char} {d n : Nat}

/-- The character stands for the digit; a letter does in either case. -/
def Writes (base : Nat) (c : Char) (d : Nat) : Prop := d < base ∧ (c = d.digitChar ∨ c = d.digitChar.toUpper)

instance : Decidable (Writes base c d) := inferInstanceAs (Decidable (_ ∧ _))

/-- The characters write the digits of the number, most significant first. -/
def Spells (base : Nat) (cs : List Char) (n : Nat) : Prop :=
  ∃ ds, List.Forall₂ (Writes base) cs ds ∧ value base ds = n

theorem toNat_of_digit? (h : digit? c = some d) :
    (c.toNat = 48 + d ∧ d < 10) ∨ (c.toNat = 87 + d ∧ 10 ≤ d ∧ d < 16) ∨ (c.toNat = 55 + d ∧ 10 ≤ d ∧ d < 16) := by
  unfold digit? at h
  split_ifs at h with h₀ h₁ h₂
  · have hc : 48 ≤ c.toNat ∧ c.toNat ≤ 57 := h₀
    have hd : c.toNat - 48 = d := Option.some.inj h
    omega
  · have hc : 97 ≤ c.toNat ∧ c.toNat ≤ 102 := h₁
    have hd : c.toNat - 97 + 10 = d := Option.some.inj h
    omega
  · have hc : 65 ≤ c.toNat ∧ c.toNat ≤ 70 := h₂
    have hd : c.toNat - 65 + 10 = d := Option.some.inj h
    omega

theorem digit?_eq_some_iff : digit? c = some d ↔ Writes 16 c d := by
  constructor
  · intro h
    have hofNat : Char.ofNat c.toNat = c := Char.ofNat_toNat c
    rcases toNat_of_digit? h with ⟨hc, hd⟩ | ⟨hc, hlow, hd⟩ | ⟨hc, hlow, hd⟩
    all_goals
      rw [← hofNat, hc]
      interval_cases d <;> decide
  · rintro ⟨hd, rfl | rfl⟩ <;> interval_cases d <;> rfl

theorem writes_iff (hbase : base ≤ 16) : Writes base c d ↔ digit? c = some d ∧ d < base := by
  rw [digit?_eq_some_iff]
  constructor
  · rintro ⟨hd, hc⟩
    exact ⟨⟨by omega, hc⟩, hd⟩
  · rintro ⟨⟨_, hc⟩, hd⟩
    exact ⟨hd, hc⟩

theorem writes_digitChar (hd : d < base) : Writes base d.digitChar d := ⟨hd, Or.inl rfl⟩

theorem not_writes_of_digit? (hbase : base ≤ 16) (hc : digit? c = none) : ¬ Writes base c d := by
  simp [writes_iff hbase, hc]

theorem writes_ten_iff : Writes 10 c d ↔ c.isDigit ∧ c.toNat - '0'.toNat = d := by
  rw [writes_iff (by decide), Char.isDigit_iff_toNat]
  change _ ↔ (48 ≤ c.toNat ∧ c.toNat ≤ 57) ∧ c.toNat - 48 = d
  constructor
  · rintro ⟨hc, hd⟩
    rcases toNat_of_digit? hc with hc | hc | hc <;> omega
  · rintro ⟨hc, rfl⟩
    exact ⟨if_pos hc, by omega⟩

theorem rightUnique_writes (hbase : base ≤ 16) : Relator.RightUnique (Writes base) := by
  intro c d d' hd hd'
  have hdigit := ((writes_iff hbase).1 hd).1
  exact Option.some.inj (hdigit.symm.trans ((writes_iff hbase).1 hd').1)

namespace Spells

theorem unique {m : Nat} (h : Spells base cs n) (hbase : base ≤ 16) (h' : Spells base cs m) : n = m := by
  obtain ⟨ds, hds, rfl⟩ := h
  obtain ⟨ds', hds', rfl⟩ := h'
  rw [(rightUnique_writes hbase).forall₂ hds hds']

theorem nil : Spells base [] 0 := ⟨[], .nil, rfl⟩

theorem snoc (h : Spells base cs n) (hc : Writes base c d) : Spells base (cs ++ [c]) (n * base + d) := by
  obtain ⟨ds, hds, rfl⟩ := h
  exact ⟨ds ++ [d], List.rel_append hds (.cons hc .nil), value_append_singleton base d ds⟩

theorem lt (h : Spells base cs n) : n < base ^ cs.length := by
  obtain ⟨ds, hds, rfl⟩ := h
  rw [hds.length_eq]
  have hflip : List.Forall₂ (fun d c => d < base ∧ (c = d.digitChar ∨ c = d.digitChar.toUpper)) ds cs := hds.flip
  exact value_lt ((List.forall₂_and_left ds cs).1 hflip).1

theorem writes_of_mem (h : Spells base cs n) (hc : c ∈ cs) : ∃ d, Writes base c d := by
  obtain ⟨ds, hds, rfl⟩ := h
  induction hds with
  | nil => exact absurd hc List.not_mem_nil
  | cons hd _ ih =>
    rcases List.mem_cons.1 hc with rfl | hc
    · exact ⟨_, hd⟩
    · exact ih hc

theorem notMem_of_digit? (h : Spells base cs n) (hbase : base ≤ 16) (hc : digit? c = none) : c ∉ cs := by
  intro hmem
  obtain ⟨d, hd⟩ := h.writes_of_mem hmem
  exact not_writes_of_digit? hbase hc hd

theorem toDigits (hbase : 1 < base) (n : Nat) : Spells base (Nat.toDigits base n) n := by
  induction n using Nat.strongRecOn with
  | _ n ih =>
    rw [Nat.toDigits_eq_if hbase]
    split_ifs with hn
    · simpa using nil.snoc (writes_digitChar hn)
    · have hdiv : n / base < n := Nat.div_lt_self (by omega) hbase
      have hmod : n % base < base := Nat.mod_lt n (by omega)
      simpa only [Nat.div_add_mod'] using (ih _ hdiv).snoc (writes_digitChar hmod)

theorem digits {count : Nat} (hbase : 0 < base) (hn : n < base ^ count) :
    Spells base ((Numeral.digits base count n).map Nat.digitChar) n := by
  refine ⟨Numeral.digits base count n, ?_, value_digits hn⟩
  rw [List.forall₂_map_left_iff, List.forall₂_same]
  intro d hd
  exact writes_digitChar (lt_of_mem_digits hbase hd)

end Spells

theorem foldlM_capped (cap acc m : Nat) (cs : List Char) :
    cs.foldlM (fun n c => if c.isDigit then some (min cap (n * 10 + (c.toNat - '0'.toNat))) else none) (min cap acc) =
      some m ↔ ∃ ds, List.Forall₂ (Writes 10) cs ds ∧ min cap (ds.foldl (fun n d => n * 10 + d) acc) = m := by
  induction cs generalizing acc with
  | nil => simp
  | cons c cs ih =>
    rw [List.foldlM_cons]
    by_cases hc : c.isDigit
    · -- Cutting before a digit is appended changes nothing: a number at the cap stays at or above it.
      have hcut (d : Nat) : min cap (min cap acc * 10 + d) = min cap (acc * 10 + d) := by omega
      simp only [if_pos hc, hcut, Option.bind_eq_bind, Option.bind_some, ih]
      constructor
      · rintro ⟨ds, hds, hm⟩
        exact ⟨_ :: ds, .cons (writes_ten_iff.2 ⟨hc, rfl⟩) hds, hm⟩
      · rintro ⟨ds, hds, hm⟩
        cases hds with
        | cons hd hds =>
          rw [← (writes_ten_iff.1 hd).2] at hm
          exact ⟨_, hds, hm⟩
    · simp only [if_neg hc, Option.bind_eq_bind, Option.bind_none, reduceCtorEq, false_iff]
      rintro ⟨ds, hds, _⟩
      cases hds with
      | cons hd _ => exact hc (writes_ten_iff.1 hd).1

theorem capped?_eq_some_iff {cap m : Nat} :
    capped? cap cs = some m ↔ cs ≠ [] ∧ ∃ n, Spells 10 cs n ∧ min cap n = m := by
  have hfold := foldlM_capped cap 0 m cs
  rw [Nat.min_zero] at hfold
  unfold capped?
  split_ifs with hcs
  · simp [List.isEmpty_iff.1 hcs]
  · rw [hfold]
    constructor
    · rintro ⟨ds, hds, hm⟩
      exact ⟨by simpa using hcs, _, ⟨ds, hds, rfl⟩, hm⟩
    · rintro ⟨_, _, ⟨ds, hds, rfl⟩, hm⟩
      exact ⟨ds, hds, hm⟩

theorem capped?_eq_none_iff {cap : Nat} : capped? cap cs = none ↔ ¬ (cs ≠ [] ∧ ∃ n, Spells 10 cs n) := by
  rw [Option.eq_none_iff_forall_ne_some]
  simp only [ne_eq, capped?_eq_some_iff]
  constructor
  · rintro h ⟨hcs, n, hn⟩
    exact h _ ⟨hcs, n, hn, rfl⟩
  · rintro h m ⟨hcs, n, hn, _⟩
    exact h ⟨hcs, n, hn⟩

end Inet.Numeral
