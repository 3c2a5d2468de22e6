import Inet.Numeral

/-!
Reading numbers. A literal has a whole part, and perhaps a fraction and an exponent. Without the latter two, and in the
range of a signed or an unsigned word, it is an integer; any other literal is a double.

The significand of a double takes as many digits as fit in a word. A digit of the whole part that no longer fits counts
as a power of ten, and so do those after it; a digit of the fraction that no longer fits ends the significand. The
significand and the power of ten are rounded each on its own before they are multiplied or divided, so the result may
miss the nearest double by one place.
-/

namespace Inet

structure Literal where
  negative : Bool
  whole : List Nat
  fraction? : Option (List Nat)
  exponent? : Option Int
  deriving DecidableEq, Repr

inductive Number where
  | integer (value : Int)
  | double (value : Float)
  deriving Repr

namespace Literal

def spanDigits (cs : List Char) : List Nat × List Char :=
  ((cs.takeWhile Char.isDigit).map fun c => c.toNat - '0'.toNat, cs.dropWhile Char.isDigit)

def spanSign : List Char → Bool × List Char
  | '-' :: cs => (true, cs)
  | cs => (false, cs)

def spanFraction : List Char → Option (List Nat) × List Char
  | '.' :: cs => (some (spanDigits cs).1, (spanDigits cs).2)
  | cs => (none, cs)

def spanExponent : List Char → Option Int × List Char
  | 'e' :: cs | 'E' :: cs =>
    let (negative, cs) := match cs with
      | '+' :: cs => (false, cs)
      | cs => spanSign cs
    let size := Numeral.value 10 (spanDigits cs).1
    (some (if negative then -(size : Int) else size), (spanDigits cs).2)
  | cs => (none, cs)

def ofText? (text : String) : Option Literal :=
  let (negative, cs) := spanSign text.toList
  let (whole, cs) := spanDigits cs
  let (fraction?, cs) := spanFraction cs
  let (exponent?, cs) := spanExponent cs
  if whole.isEmpty ∨ ¬ cs.isEmpty then none else some ⟨negative, whole, fraction?, exponent?⟩

structure Significand where
  value : Nat
  exponent : Int
  deriving DecidableEq, Repr

namespace Significand

def takeWhole (ds : List Nat) : Significand :=
  ds.foldl (fun s d =>
    if s.exponent = 0 ∧ s.value * 10 + d < UInt64.size then ⟨s.value * 10 + d, 0⟩
    else ⟨s.value, s.exponent + 1⟩) ⟨0, 0⟩

def takeFraction : Significand → List Nat → Significand
  | s, [] => s
  | s, d :: ds =>
    if s.value * 10 + d < UInt64.size then takeFraction ⟨s.value * 10 + d, s.exponent - 1⟩ ds else s

end Significand

def powerOfTen (n : Nat) : Float := Float.ofScientific 1 false n

def raise? (x : Float) (n : Nat) : Option Float :=
  if n ≤ 308 then
    let y := x * powerOfTen n
    -- A product beyond all doubles is refused.
    if y.isInf then none else some y
  else if x == 0 then some x
  else none

def lower (x : Float) (n : Nat) : Float :=
  if n ≤ 308 then x / powerOfTen n
  else if x == 0 then x
  -- The largest power of ten among the doubles is the 308th.
  else lower (x / powerOfTen 308) (n - 308)
termination_by n

def double? (l : Literal) : Option Float := do
  let s := (Significand.takeWhole l.whole).takeFraction (l.fraction?.getD [])
  let exponent := s.exponent + l.exponent?.getD 0
  let x := Float.ofNat s.value
  let y ← if 0 ≤ exponent then raise? x exponent.toNat else some (lower x (-exponent).toNat)
  return if l.negative then -y else y

def integer? (l : Literal) : Option Int :=
  let n := Numeral.value 10 l.whole
  match l.fraction?, l.exponent?, l.negative with
  | none, none, false => if n < UInt64.size then some n else none
  -- A zero with a sign is no integer.
  | none, none, true => if 0 < n ∧ n ≤ UInt64.size / 2 then some (-n) else none
  | _, _, _ => none

def number? (l : Literal) : Option Number :=
  match l.integer? with
  | some n => some (.integer n)
  | none => l.double?.map .double

end Literal

end Inet
