import Inet.IpAddress

/-!
Spaces of octets. A space has a fixed size and is filled from the front; octets that do not fit leave it as it is. As
with buffers, how the octets are kept has no part in what is written. Behind what is written stands the room that is
left, with whatever it held before.
-/

namespace Inet

class Sink (σ : Type) where
  written : σ → List UInt8
  room : σ → List UInt8
  free : σ → Nat
  write : σ → List UInt8 → Except SpaceError σ
  free_eq (s : σ) : free s = (room s).length
  write_short (s : σ) (os : List UInt8) : free s < os.length → write s os = .error ⟨free s, os.length⟩
  write_fits (s : σ) (os : List UInt8) : os.length ≤ free s →
    ∃ t, write s os = .ok t ∧ written t = written s ++ os ∧ room t = (room s).drop os.length

namespace Sink

variable {σ : Type} [Sink σ]

def cells (s : σ) : List UInt8 := written s ++ room s

/-- Writes addresses one after another, going on after one that does not fit. The reports tell how much room was
left after each. -/
def writeAll (s : σ) : List IpAddress → List (Except SpaceError Nat) × σ
  | [] => ([], s)
  | x :: xs =>
    match write s x.octets with
    | .ok s' =>
      let (reports, last) := writeAll s' xs
      (.ok (free s') :: reports, last)
    | .error e =>
      let (reports, last) := writeAll s xs
      (.error e :: reports, last)

end Sink

structure Space where
  cells : List UInt8
  used : Nat
  used_le : used ≤ cells.length
  deriving DecidableEq, Repr

namespace Space

def zeroed (size : Nat) : Space := ⟨List.replicate size 0, 0, Nat.zero_le _⟩

def free (s : Space) : Nat := s.cells.length - s.used

def write (s : Space) (os : List UInt8) : Except SpaceError Space :=
  if h : os.length ≤ s.free then
    .ok ⟨s.cells.take s.used ++ os ++ s.cells.drop (s.used + os.length), s.used + os.length, by
      have := s.used_le
      unfold free at h
      simp only [List.length_append, List.length_take, List.length_drop]
      omega⟩
  else .error ⟨s.free, os.length⟩

theorem length_take_append {s : Space} (os : List UInt8) :
    (s.cells.take s.used ++ os).length = s.used + os.length := by
  rw [List.length_append, List.length_take_of_le s.used_le]

instance : Sink Space where
  written s := s.cells.take s.used
  room s := s.cells.drop s.used
  free := free
  write := write
  free_eq _ := List.length_drop.symm
  write_short _ _ h := dif_neg (Nat.not_le.2 h)
  write_fits s os h := ⟨_, dif_pos h, List.take_left' (length_take_append os), by
    rw [List.drop_left' (length_take_append os), List.drop_drop]⟩

theorem cells_eq (s : Space) : Sink.cells s = s.cells := List.take_append_drop s.used s.cells

def writeAll (s : Space) (xs : List IpAddress) : List (Except SpaceError Nat) × Space := Sink.writeAll s xs

end Space

end Inet
