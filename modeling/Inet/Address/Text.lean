import Inet.Address.Positional

/-!
Writing addresses. A v4 address is four decimal octets. A v6 address is eight groups of hexadecimal digits, of which
the longest run of two or more zero groups is left out; among runs of one length the leftmost is taken. A v6
address can also be written in full, or with every group padded to four digits.
-/

namespace Inet

structure ZeroRun where
  start : Nat
  length : Nat
  deriving DecidableEq, Repr

/-- A pass over a list from the left: the longest run met so far, the run that is going on, and the place reached. -/
structure ZeroPass where
  best : ZeroRun
  current : ZeroRun
  index : Nat
  deriving DecidableEq, Repr

def ZeroPass.start : ZeroPass := ⟨⟨0, 0⟩, ⟨0, 0⟩, 0⟩

def ZeroPass.runStart (p : ZeroPass) : Nat := if p.current.length = 0 then p.index else p.current.start

def ZeroPass.step (p : ZeroPass) (d : Nat) : ZeroPass :=
  if d = 0 then
    let current : ZeroRun := ⟨p.runStart, p.current.length + 1⟩
    -- Only a run that is longer takes the place of the best.
    ⟨if p.best.length < current.length then current else p.best, current, p.index + 1⟩
  else { p with current := ⟨p.current.start, 0⟩, index := p.index + 1 }

def longestZeroRun (ds : List Nat) : ZeroRun := (ds.foldl ZeroPass.step .start).best

def joinGroups (gs : List Nat) : String := ":".intercalate (gs.map (Numeral.text 16))

def joinCompressed (gs : List Nat) : String :=
  let run := longestZeroRun gs
  if run.length < 2 then joinGroups gs
  else joinGroups (gs.take run.start) ++ "::" ++ joinGroups (gs.drop (run.start + run.length))

def joinPadded (gs : List Nat) : String := ":".intercalate (gs.map (Numeral.paddedText 16 4))

/-- A v6 address together with a way to write it. Padding wins over compression. -/
structure Rendering where
  address : Address .v6
  compress : Bool
  pad : Bool
  deriving DecidableEq, Repr

def Rendering.text (r : Rendering) : String :=
  if r.pad then joinPadded r.address.components
  else if r.compress then joinCompressed r.address.components
  else joinGroups r.address.components

def Address.text : {f : Family} → Address f → String
  | .v4, a => ".".intercalate (a.components.map (Numeral.text 10))
  | .v6, a => Rendering.text ⟨a, true, false⟩

end Inet
