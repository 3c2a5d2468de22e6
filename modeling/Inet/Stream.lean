import Inet.Address.Positional
import Inet.Buffer
import Inet.Trace

/-!
Addresses in a stream of octets. An address is read from the front of a buffer, which keeps what follows. A buffer that
is too short stays as it is, and the attempt leaves an event in the trace.
-/

namespace Inet

variable {β : Type} [Buffer β] {f : Family}

def Address.read (f : Family) (b : β) : Traced (Except ReadError (Address f) × β) :=
  if h : f.octetCount ≤ Buffer.remaining b then
    let taken := Buffer.copy b f.octetCount h
    return (.ok (ofOctets taken.1), taken.2)
  else do
    .record (.shortRead f (Buffer.remaining b))
    return (.error ⟨f.octetCount, Buffer.remaining b⟩, b)

theorem Address.remaining_lt_of_read {a : Address f} {b rest : β} {events : List TraceEvent}
    (h : read f b = ⟨(.ok a, rest), events⟩) : Buffer.remaining rest < Buffer.remaining b := by
  unfold read at h
  split at h
  next hle =>
    have hrest : (Buffer.copy b f.octetCount hle).2 = rest := congrArg (·.result.2) h
    have hpos := f.octetCount_pos
    rw [Buffer.remaining_eq] at hle
    rw [← hrest, Buffer.remaining_eq, Buffer.remaining_eq, Buffer.contents_copy, List.length_drop]
    omega
  next => cases h

structure Readout (f : Family) (β : Type) where
  /-- The addresses in order, each with the buffer that was left after it. -/
  items : List (Address f × β)
  stop : ReadError
  rest : β
  deriving DecidableEq, Repr

def readAll (f : Family) (b : β) : Traced (Readout f β) :=
  match h : Address.read f b with
  | ⟨(.error e, rest), events⟩ => ⟨⟨[], e, rest⟩, events⟩
  | ⟨(.ok a, rest), events⟩ =>
    have := Address.remaining_lt_of_read h
    let later := readAll f rest
    ⟨{ later.result with items := (a, rest) :: later.result.items }, events ++ later.events⟩
termination_by Buffer.remaining b

end Inet
