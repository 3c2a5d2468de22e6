import Inet.Address.Positional

/-!
Reading the text of an address, one character at a time. A scan holds the components closed so far, the place of the
gap written by two colons, and a mark that says what was read last. `step` takes one character, `finish` takes the
end of the text, and `expand` fills the gap with zeros.

An error is raised by one character, or by the end, and depends only on the text before it.
-/

namespace Inet

inductive Mark where
  | start
  /-- The first `count` digits of a component that begins at `first`, with the value they have. -/
  | digits (first count value : Nat)
  | dot
  | leadingColon
  | colon
  | gap
  deriving DecidableEq, Repr

structure Scan where
  components : List Nat
  gap : Option Nat
  mark : Mark
  deriving DecidableEq, Repr

namespace Scan

def start : Scan := ⟨[], none, .start⟩

def close (f : Family) (s : Scan) (value : Nat) (mark : Mark) : Except ParseError Scan :=
  if f.componentCount ≤ s.components.length then .error (.componentCount f (s.components.length + 1))
  -- Only a v4 component can be too large: four hexadecimal digits always fit.
  else if f.componentBase ≤ value then .error (.octetOverflow value)
  else .ok { s with components := s.components ++ [value], mark }

def digit (f : Family) (s : Scan) (position d : Nat) : Except ParseError Scan :=
  let extend (first count value : Nat) : Except ParseError Scan :=
    if f.radix ≤ d ∨ f.maxDigits ≤ count then .error (.invalidComponent first)
    else .ok { s with mark := .digits first (count + 1) (value * f.radix + d) }
  match s.mark with
  | .digits first count value => extend first count value
  -- A colon that opens the text waits for another colon.
  | .leadingColon => .error (.malformed f)
  | .start | .dot | .colon | .gap => extend position 0 0

def dot (f : Family) (s : Scan) : Except ParseError Scan :=
  match f, s.mark with
  | .v4, .digits _ _ value => s.close f value .dot
  | _, _ => .error (.malformed f)

def colon (f : Family) (s : Scan) : Except ParseError Scan :=
  match f, s.mark with
  | .v4, _ | .v6, .dot => .error (.malformed f)
  | .v6, .start => .ok { s with mark := .leadingColon }
  | .v6, .digits _ _ value => s.close f value .colon
  | .v6, .leadingColon | .v6, .colon | .v6, .gap =>
    if s.gap.isSome then .error .repeatedGap
    else .ok { s with gap := some s.components.length, mark := .gap }

def step (f : Family) (s : Scan) (position : Nat) (c : Char) : Except ParseError Scan :=
  match Numeral.digit? c with
  | some d => s.digit f position d
  | none =>
    if c = '.' then s.dot f
    else if c = ':' then s.colon f
    else if c.toNat < 128 then .error (.unexpectedCharacter c position)
    else .error (.nonAscii position)

def run (f : Family) : Scan → Nat → List Char → Except ParseError Scan
  | s, _, [] => .ok s
  | s, position, c :: cs => do (← s.step f position c).run f (position + c.utf8Size) cs

theorem run_append (f : Family) (s : Scan) (position : Nat) (cs ds : List Char) :
    s.run f position (cs ++ ds) =
      (s.run f position cs).bind fun t => t.run f (cs.foldl (fun p c => p + c.utf8Size) position) ds := by
  induction cs generalizing s position with
  | nil => rfl
  | cons c cs ih =>
    rw [List.cons_append, run, run]
    cases s.step f position c with
    | error e => rfl
    | ok t => exact ih t (position + c.utf8Size)

def finish (f : Family) (s : Scan) : Except ParseError Scan :=
  match s.mark with
  | .start => .error .missingAddress
  | .digits _ _ value => s.close f value s.mark
  | .gap => .ok s
  | .dot | .leadingColon | .colon => .error (.malformed f)

def expand (f : Family) (s : Scan) : Except ParseError (List Nat) :=
  let missing := f.componentCount - s.components.length
  match s.gap with
  | some place => .ok (s.components.take place ++ List.replicate missing 0 ++ s.components.drop place)
  | none => if missing = 0 then .ok s.components else .error (.componentCount f s.components.length)

end Scan

def Address.parse (f : Family) (text : String) : Except ParseError (Address f) := do
  let s ← Scan.start.run f 0 text.toList
  let s ← s.finish f
  return Address.ofComponents f (← s.expand f)

end Inet
