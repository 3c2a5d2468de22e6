/-!
The shortest decimal of a double. A finite double stands for every real number that rounds to it: those up to half way
to either neighbour, the two ends included when its significand is even. On the grid of a power of ten these numbers
have coefficients from a least to a greatest. The coarsest grid with a coefficient at all has the fewest digits, and
there the double itself is rounded, to even on a tie, and brought into the range.
-/

namespace Inet

structure Decimal where
  coefficient : Nat
  exponent : Int
  deriving DecidableEq, Repr

/-- The real numbers around `value` that round to it, from `low` to `high`, all counted in parts of which `unit` make
one. -/
structure RoundingInterval where
  low : Nat
  value : Nat
  high : Nat
  unit : Nat
  closed : Bool
  deriving DecidableEq, Repr

namespace RoundingInterval

/-- The interval of a finite double, without its sign. A part is a quarter of the last place, and a last place is at
least two to the power -1074. Just below a power of two the neighbour is only half as far away. -/
def ofFloat (x : Float) : RoundingInterval :=
  let bits := x.toBits
  let scale := ((bits >>> 52) &&& 0x7FF).toNat
  let fraction := (bits &&& 0xFFFFFFFFFFFFF).toNat
  let significand := if scale = 0 then fraction else 0x10000000000000 + fraction
  let place := if scale = 0 then 1 else scale
  let below := if fraction = 0 ∧ 1 < scale then 1 else 2
  let quarter := Nat.pow 2 (place - 1077)
  ⟨(4 * significand - below) * quarter, 4 * significand * quarter, (4 * significand + 2) * quarter,
    Nat.pow 2 (1077 - place), significand % 2 = 0⟩

def onGrid (x : RoundingInterval) (grid : Int) (parts : Nat) : Nat × Nat :=
  (parts * Nat.pow 10 (-grid).toNat, x.unit * Nat.pow 10 grid.toNat)

def least (x : RoundingInterval) (grid : Int) : Nat :=
  let (n, d) := x.onGrid grid x.low
  if x.closed then (n + d - 1) / d else n / d + 1

def greatest (x : RoundingInterval) (grid : Int) : Nat :=
  let (n, d) := x.onGrid grid x.high
  if x.closed then n / d else (n + d - 1) / d - 1

def rounded (x : RoundingInterval) (grid : Int) : Nat :=
  let (n, d) := x.onGrid grid x.value
  let down := n / d
  match compare (2 * (n % d)) d with
  | .lt => down
  | .eq => down + down % 2
  | .gt => down + 1

def nearest? (x : RoundingInterval) (grid : Int) : Option Decimal :=
  if x.greatest grid < x.least grid then none
  else if x.rounded grid < x.least grid then some ⟨x.least grid, grid⟩
  else if x.greatest grid < x.rounded grid then some ⟨x.greatest grid, grid⟩
  else some ⟨x.rounded grid, grid⟩

/-- The shortest decimal of a double other than zero. The grids go from one that is coarser than the largest double to
one that is finer than the smallest. -/
def shortest? (x : RoundingInterval) : Option Decimal :=
  if x.value = 0 then none
  else (List.range 640).findSome? fun (i : Nat) => x.nearest? (309 - (i : Int))

end RoundingInterval

end Inet
