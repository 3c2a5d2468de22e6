/-!
Positional numerals. `value` reads a list of digits, most significant first, and `digits` writes a number with a
fixed count of them, so that `digits_value` gives the same digits back. Text uses the digits 0 to 9 and a to f, and a
reader takes the letters in either case.
-/

namespace Inet.Numeral

def value (base : Nat) (ds : List Nat) : Nat := ds.foldl (fun n d => n * base + d) 0

def digits (base : Nat) : Nat → Nat → List Nat
  | 0, _ => []
  | count + 1, n => digits base count (n / base) ++ [n % base]

def digit? (c : Char) : Option Nat :=
  if '0' ≤ c ∧ c ≤ '9' then some (c.toNat - '0'.toNat)
  else if 'a' ≤ c ∧ c ≤ 'f' then some (c.toNat - 'a'.toNat + 10)
  else if 'A' ≤ c ∧ c ≤ 'F' then some (c.toNat - 'A'.toNat + 10)
  else none

def text (base n : Nat) : String := String.ofList (Nat.toDigits base n)

def paddedText (base count n : Nat) : String := String.ofList ((digits base count n).map Nat.digitChar)

/-- A decimal numeral, read with every intermediate value cut off at `cap`, so that a numeral of any length is read
in bounded space. Text with any other character, or with none, is no numeral. -/
def capped? (cap : Nat) (cs : List Char) : Option Nat :=
  if cs.isEmpty then none
  else cs.foldlM (fun n c => if c.isDigit then some (min cap (n * 10 + (c.toNat - '0'.toNat))) else none) 0

@[simp] theorem value_nil (base : Nat) : value base [] = 0 := rfl

theorem value_append_singleton (base d : Nat) (ds : List Nat) :
    value base (ds ++ [d]) = value base ds * base + d := by
  simp [value]

@[simp] theorem length_digits (base count n : Nat) : (digits base count n).length = count := by
  induction count generalizing n with
  | zero => rfl
  | succ count ih => simp [digits, ih]

theorem lt_of_mem_digits {base count n d : Nat} (hbase : 0 < base) (h : d ∈ digits base count n) : d < base := by
  induction count generalizing n with
  | zero => simp [digits] at h
  | succ count ih =>
    rcases List.mem_append.1 h with h | h
    · exact ih h
    · rw [List.mem_singleton.1 h]
      exact Nat.mod_lt n hbase

theorem digits_mul_add {base d : Nat} (hd : d < base) (count n : Nat) :
    digits base (count + 1) (n * base + d) = digits base count n ++ [d] := by
  have hpos : 0 < base := Nat.zero_lt_of_lt hd
  rw [digits, Nat.add_comm (_ * _), Nat.add_mul_div_right _ _ hpos, Nat.div_eq_of_lt hd, Nat.zero_add,
    Nat.add_mul_mod_self_right, Nat.mod_eq_of_lt hd]

theorem digits_value {base : Nat} {ds : List Nat} (h : ∀ d ∈ ds, d < base) :
    digits base ds.length (value base ds) = ds := by
  have key : ∀ rs : List Nat, (∀ d ∈ rs, d < base) →
      digits base rs.length (value base rs.reverse) = rs.reverse := by
    intro rs
    induction rs with
    | nil => exact fun _ => rfl
    | cons d rs ih =>
      intro hrs
      have hd : d < base := hrs d List.mem_cons_self
      have hrest := ih fun e he => hrs e (List.mem_cons_of_mem d he)
      rw [List.reverse_cons, value_append_singleton, List.length_cons, digits_mul_add hd, hrest]
  have := key ds.reverse fun d hd => h d (List.mem_reverse.1 hd)
  rwa [List.length_reverse, List.reverse_reverse] at this

end Inet.Numeral
