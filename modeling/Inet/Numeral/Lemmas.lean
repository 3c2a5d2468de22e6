import Mathlib.Algebra.Order.Ring.Nat
import Inet.Numeral

/-!
Numerals and powers of the base. A number with a fixed count of digits is known up to a power of the base, and a list
of digits stays below that power.
-/

namespace Inet.Numeral

theorem value_digits_mod (base count n : Nat) : value base (digits base count n) = n % base ^ count := by
  induction count generalizing n with
  | zero => simp [digits, Nat.mod_one]
  | succ count ih =>
    rw [digits, value_append_singleton, ih, Nat.pow_succ', Nat.mod_mul]
    rw [Nat.mul_comm, Nat.add_comm]

theorem value_digits {base count n : Nat} (h : n < base ^ count) : value base (digits base count n) = n := by
  rw [value_digits_mod, Nat.mod_eq_of_lt h]

theorem value_lt {base : Nat} {ds : List Nat} (h : ∀ d ∈ ds, d < base) : value base ds < base ^ ds.length := by
  by_cases hbase : base = 0
  · subst hbase
    cases ds with
    | nil => simp
    | cons d ds => exact absurd (h d List.mem_cons_self) (Nat.not_lt_zero d)
  · have hpos : 0 < base ^ ds.length := Nat.pow_pos (Nat.pos_of_ne_zero hbase)
    have hmod := value_digits_mod base ds.length (value base ds)
    rw [digits_value h] at hmod
    rw [hmod]
    exact Nat.mod_lt _ hpos

end Inet.Numeral
