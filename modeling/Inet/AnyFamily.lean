import Inet.Family.Detect

/-!
Things of either family. Whatever comes in both families can be carried together with its family. Reading detects
the family first and then reads the whole text in it. All v4 things are ordered before all v6 ones, and things of
different families are never equal.
-/

namespace Inet

structure AnyFamily (α : Family → Type) where
  family : Family
  content : α family

namespace AnyFamily

variable {α : Family → Type}

def of {f : Family} (x : α f) : AnyFamily α := ⟨f, x⟩

theorem of_inj {f : Family} {x y : α f} : (of x = of y) ↔ x = y := by
  simp [of]

instance [∀ f, DecidableEq (α f)] : DecidableEq (AnyFamily α)
  | ⟨.v4, _⟩, ⟨.v4, _⟩ | ⟨.v6, _⟩, ⟨.v6, _⟩ => decidable_of_iff _ of_inj.symm
  | ⟨.v4, _⟩, ⟨.v6, _⟩ | ⟨.v6, _⟩, ⟨.v4, _⟩ => .isFalse nofun

instance [∀ f, Ord (α f)] : Ord (AnyFamily α) where
  compare
    | ⟨.v4, x⟩, ⟨.v4, y⟩ => compare x y
    | ⟨.v4, _⟩, ⟨.v6, _⟩ => .lt
    | ⟨.v6, _⟩, ⟨.v4, _⟩ => .gt
    | ⟨.v6, x⟩, ⟨.v6, y⟩ => compare x y

instance [∀ f, Ord (α f)] : LT (AnyFamily α) := ltOfOrd

instance [∀ f, Ord (α f)] : LE (AnyFamily α) := leOfOrd

def parse (read : (f : Family) → String → Except ParseError (α f)) (text : String) :
    Except ParseError (AnyFamily α) := do
  let f ← Family.detect text
  return of (← read f text)

/-- Equality with a thing of a known family. -/
def holds [∀ f, DecidableEq (α f)] : {f : Family} → AnyFamily α → α f → Bool
  | .v4, ⟨.v4, x⟩, y => x == y
  | .v6, ⟨.v6, x⟩, y => x == y
  | _, _, _ => false

def heldBy [∀ f, DecidableEq (α f)] {f : Family} (x : α f) (y : AnyFamily α) : Bool := y.holds x

end AnyFamily

end Inet
