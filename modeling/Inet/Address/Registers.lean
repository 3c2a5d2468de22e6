import Inet.Address.Scan

/-!
Reading an address in registers of fixed size. The components stand in eight slots, the counters are octets and the
component that is being read is a word of 32 bits, so a text of any length is read in the same space. An operation on
registers is exact or stops the reader with a fault, never silently inexact. Reading in registers raises the errors of
a scan, and it raises them at the same characters.

Once two colons were read, the registers are `gapped`. They are `leading` while a colon that opens the text waits for a
second one, and `doubled` behind the second of two colons.
-/

namespace Inet

inductive Fault where
  | overflow
  | truncation
  | saturation
  | outOfBounds
  deriving DecidableEq, Repr

inductive Halt where
  | refused (error : ParseError)
  | fault (fault : Fault)
  deriving DecidableEq, Repr

inductive Phase where
  | start
  | digit
  | dot
  | colon
  deriving DecidableEq, Repr

structure Registers where
  phase : Phase
  gapped : Bool
  leading : Bool
  doubled : Bool
  size : UInt8
  slots : Vector UInt16 8
  gapStart : UInt8
  first : Nat
  count : UInt8
  value : UInt32
  deriving DecidableEq, Repr

namespace Registers

section Words

def increment (n : UInt8) : Except Halt UInt8 :=
  if n.toNat + 1 < UInt8.size then .ok (n + 1) else .error (.fault .saturation)

def appendDigit (value radix digit : UInt32) : Except Halt UInt32 :=
  if value.toNat * radix.toNat + digit.toNat < UInt32.size then .ok (value * radix + digit)
  else .error (.fault .overflow)

def narrow (n : UInt32) : Except Halt UInt16 :=
  if n.toNat < UInt16.size then .ok n.toUInt16 else .error (.fault .truncation)

def narrowOctet (n : UInt16) : Except Halt UInt8 :=
  if n.toNat < UInt8.size then .ok n.toUInt8 else .error (.fault .truncation)

def load (slots : Vector UInt16 8) (i : Nat) : Except Halt UInt16 :=
  if h : i < 8 then .ok slots[i] else .error (.fault .outOfBounds)

def store (slots : Vector UInt16 8) (i : Nat) (word : UInt16) : Except Halt (Vector UInt16 8) :=
  if h : i < 8 then .ok (slots.set i word) else .error (.fault .outOfBounds)

end Words

def start : Registers where
  phase := .start
  gapped := false
  leading := false
  doubled := false
  size := 0
  slots := .replicate 8 0
  gapStart := 0
  first := 0
  count := 0
  value := 0

def close (f : Family) (r : Registers) (phase : Phase) : Except Halt Registers :=
  if f.componentCount ≤ r.size.toNat then do
    let count ← increment r.size
    .error (.refused (.componentCount f count.toNat))
  else if f = .v4 ∧ 255 < r.value.toNat then do
    let value ← narrow r.value
    .error (.refused (.octetOverflow value.toNat))
  else do
    let word ← narrow r.value
    let slots ← store r.slots r.size.toNat word
    let size ← increment r.size
    return { r with phase, size, slots, count := 0, value := 0 }

def beginDigit (r : Registers) (position : Nat) : Registers :=
  if r.phase = .digit then r else { r with phase := .digit, doubled := false, first := position }

def takeDigit (f : Family) (r : Registers) (d : Nat) : Except Halt Registers :=
  if f.radix ≤ d then .error (.refused (.invalidComponent r.first))
  else do
    let count ← increment r.count
    if f.maxDigits < count.toNat then .error (.refused (.invalidComponent r.first))
    else
      let value ← appendDigit r.value (.ofNat f.radix) (.ofNat d)
      return { r with count, value }

def digit (f : Family) (r : Registers) (position d : Nat) : Except Halt Registers :=
  if r.phase = .colon ∧ r.leading then .error (.refused (.malformed .v6))
  else (r.beginDigit position).takeDigit f d

def dot (f : Family) (r : Registers) : Except Halt Registers :=
  match f, r.phase with
  | .v4, .digit => r.close .v4 .dot
  | _, _ => .error (.refused (.malformed f))

def colon (f : Family) (r : Registers) : Except Halt Registers :=
  match f, r.phase with
  | .v4, _ | .v6, .dot => .error (.refused (.malformed f))
  | .v6, .start => .ok { r with phase := .colon, leading := true }
  | .v6, .digit => r.close .v6 .colon
  | .v6, .colon =>
    if r.gapped then .error (.refused .repeatedGap)
    else .ok { r with gapped := true, leading := false, doubled := true, gapStart := r.size }

def step (f : Family) (r : Registers) (position : Nat) (c : Char) : Except Halt Registers :=
  match Numeral.digit? c with
  | some d => r.digit f position d
  | none =>
    if c = '.' then r.dot f
    else if c = ':' then r.colon f
    else if c.toNat < 128 then .error (.refused (.unexpectedCharacter c position))
    else .error (.refused (.nonAscii position))

def run (f : Family) : Registers → Nat → List Char → Except Halt Registers
  | r, _, [] => .ok r
  | r, position, c :: cs => do (← r.step f position c).run f (position + c.utf8Size) cs

def finish (f : Family) (r : Registers) : Except Halt Registers :=
  match r.phase with
  | .start => .error (.refused .missingAddress)
  | .digit => r.close f .digit
  | .dot => .error (.refused (.malformed .v4))
  | .colon => if r.doubled then .ok r else .error (.refused (.malformed .v6))

/-- Moves the words of the slots from `start` up to the given one back by `missing` places, the last one first, and
leaves zeros behind. -/
def shiftTail (missing start : Nat) : Nat → Vector UInt16 8 → Except Halt (Vector UInt16 8)
  | 0, slots => .ok slots
  | i + 1, slots =>
    if start ≤ i then do
      let word ← load slots i
      let slots ← store slots (i + missing) word
      let slots ← store slots i 0
      shiftTail missing start i slots
    else .ok slots

def groups (r : Registers) : Except Halt (Vector UInt16 8) :=
  if r.size.toNat < 8 then
    if r.gapped then shiftTail (8 - r.size.toNat) r.gapStart.toNat r.size.toNat r.slots
    else .error (.refused (.componentCount .v6 r.size.toNat))
  else .ok r.slots

def octets (r : Registers) : Except Halt (Vector UInt8 4) :=
  if r.size.toNat = 4 then do
    let a ← narrowOctet r.slots[0]
    let b ← narrowOctet r.slots[1]
    let c ← narrowOctet r.slots[2]
    let d ← narrowOctet r.slots[3]
    return #v[a, b, c, d]
  else .error (.refused (.componentCount .v4 r.size.toNat))

def address : (f : Family) → Registers → Except Halt (Address f)
  | .v4, r => r.octets.map .ofOctets
  | .v6, r => r.groups.map .ofGroups

def parse (f : Family) (text : String) : Except Halt (Address f) := do
  let r ← start.run f 0 text.toList
  let r ← r.finish f
  r.address f

end Registers

end Inet
