/-!
Buffers of octets. A buffer gives its octets from the front. How it keeps them is its own matter: in one piece, in many,
or as the beginning of another buffer. What is read from it depends on its contents alone.
-/

namespace Inet

class Buffer (β : Type) where
  contents : β → List UInt8
  remaining : β → Nat
  copy (b : β) (count : Nat) : count ≤ remaining b → Vector UInt8 count × β
  remaining_eq (b : β) : remaining b = (contents b).length
  toList_copy (b : β) (count : Nat) (h : count ≤ remaining b) : (copy b count h).1.toList = (contents b).take count
  contents_copy (b : β) (count : Nat) (h : count ≤ remaining b) : contents (copy b count h).2 = (contents b).drop count

instance : Buffer (List UInt8) where
  contents b := b
  remaining b := b.length
  copy b count h := (⟨(b.take count).toArray, List.length_take_of_le h⟩, b.drop count)
  remaining_eq _ := rfl
  toList_copy _ _ _ := rfl
  contents_copy _ _ _ := rfl

structure Segments where
  pieces : List (List UInt8)
  deriving DecidableEq, Repr

namespace Segments

def remaining (s : Segments) : Nat := s.pieces.foldr (fun p n => p.length + n) 0

def gather : Nat → List (List UInt8) → List UInt8 × List (List UInt8)
  | _, [] => ([], [])
  | count, p :: ps =>
    if count ≤ p.length then (p.take count, p.drop count :: ps)
    else (p ++ (gather (count - p.length) ps).1, (gather (count - p.length) ps).2)

theorem remaining_eq (s : Segments) : s.remaining = s.pieces.flatten.length := by
  obtain ⟨ps⟩ := s
  unfold remaining
  induction ps with
  | nil => rfl
  | cons p ps ih => simpa using ih

theorem gather_fst (count : Nat) (ps : List (List UInt8)) : (gather count ps).1 = ps.flatten.take count := by
  induction ps generalizing count with
  | nil => simp [gather]
  | cons p ps ih =>
    rw [gather, List.flatten_cons, List.take_append]
    split
    next h => simp [Nat.sub_eq_zero_of_le h]
    next h => rw [ih, List.take_of_length_le (Nat.le_of_not_le h)]

theorem length_gather_fst {s : Segments} {count : Nat} (h : count ≤ s.remaining) :
    (gather count s.pieces).1.length = count := by
  rw [gather_fst]
  exact List.length_take_of_le (s.remaining_eq ▸ h)

theorem flatten_gather_snd (count : Nat) (ps : List (List UInt8)) :
    (gather count ps).2.flatten = ps.flatten.drop count := by
  induction ps generalizing count with
  | nil => simp [gather]
  | cons p ps ih =>
    rw [gather, List.flatten_cons, List.drop_append]
    split
    next h => simp [Nat.sub_eq_zero_of_le h]
    next h => rw [ih, List.drop_eq_nil_of_le (Nat.le_of_not_le h), List.nil_append]

instance : Buffer Segments where
  contents s := s.pieces.flatten
  remaining := remaining
  copy s count h :=
    (⟨(gather count s.pieces).1.toArray, length_gather_fst h⟩, ⟨(gather count s.pieces).2⟩)
  remaining_eq := remaining_eq
  toList_copy s count _ := gather_fst count s.pieces
  contents_copy s count _ := flatten_gather_snd count s.pieces

end Segments

structure Limited (β : Type) where
  inner : β
  limit : Nat
  deriving DecidableEq, Repr

instance {β : Type} [Buffer β] : Buffer (Limited β) where
  contents b := (Buffer.contents b.inner).take b.limit
  remaining b := min b.limit (Buffer.remaining b.inner)
  copy b count h :=
    let taken := Buffer.copy b.inner count (Nat.le_trans h (Nat.min_le_right _ _))
    (taken.1, ⟨taken.2, b.limit - count⟩)
  remaining_eq b := by simp [Buffer.remaining_eq]
  toList_copy b count h := by
    have hcount : count ≤ b.limit := Nat.le_trans h (Nat.min_le_left _ _)
    rw [Buffer.toList_copy, List.take_take, Nat.min_eq_left hcount]
  contents_copy b count h := by
    rw [Buffer.contents_copy, List.drop_take]

end Inet
