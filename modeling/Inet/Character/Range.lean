/-!
Sets of characters, given as closed ranges of code points. The ranges of a set are in order and a character is left out
between any two of them, so that no range could be dropped or joined with its neighbour.
-/

namespace Inet

/-- The first range begins at the given point or later, and each later one beyond the point after the one before it. -/
def ascendFrom : Nat → List (Nat × Nat) → Bool
  | _, [] => true
  | n, (a, b) :: rs => n ≤ a && a ≤ b && ascendFrom (b + 2) rs

structure CharSet where
  ranges : List (Nat × Nat)
  ascending : ascendFrom 0 ranges = true

def CharSet.contains (s : CharSet) (c : Char) : Bool := s.ranges.any fun (a, b) => a ≤ c.toNat && c.toNat ≤ b

end Inet
