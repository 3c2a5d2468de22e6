import Inet.Proofs.Framing
import Inet.Space

/-!
Spaces filled with addresses. Addresses of either family are stored one behind the other, and one that no longer fits is
left out without a trace in the space. What a space then holds is read back, family by family, as the addresses that
were stored.
-/

namespace Inet

variable {β : Type} [Buffer β] {size : Nat} {x : IpAddress} {xs ys : List IpAddress}

def octetsOf (xs : List IpAddress) : List UInt8 := xs.flatMap IpAddress.octets

theorem octetsOf_concat (xs : List IpAddress) (x : IpAddress) : octetsOf (xs ++ [x]) = octetsOf xs ++ x.octets := by
  simp [octetsOf]

def storeIfFits (size : Nat) (stored : List IpAddress) (x : IpAddress) : List IpAddress :=
  if (octetsOf stored).length + x.octets.length ≤ size then stored ++ [x] else stored

def fitting (size : Nat) (xs : List IpAddress) : List IpAddress := xs.foldl (storeIfFits size) []

namespace Sink

variable {σ : Type} [Sink σ] {s t : σ} {report : Except SpaceError Nat}

/-- The octets of the addresses have been written, and zeros stand in the rest of the `size` octets. -/
structure Holds (size : Nat) (xs : List IpAddress) (s : σ) : Prop where
  cells : cells s = octetsOf xs ++ List.replicate (free s) 0
  written : written s = octetsOf xs
  free : free s + (octetsOf xs).length = size

/-- An address is stored whole, or it is refused and the space stays as it is. -/
inductive Attempt (x : IpAddress) (s : σ) : Except SpaceError Nat → σ → Prop where
  | stored {t : σ} : x.octets.length ≤ free s → write s x.octets = .ok t → Attempt x s (.ok (free t)) t
  | refused : free s < x.octets.length → write s x.octets = .error ⟨free s, x.octets.length⟩ →
    Attempt x s (.error ⟨free s, x.octets.length⟩) s

theorem exists_attempt (x : IpAddress) (s : σ) : ∃ report t, Attempt x s report t := by
  rcases Nat.lt_or_ge (free s) x.octets.length with hlt | hle
  · exact ⟨_, _, .refused hlt (write_short s _ hlt)⟩
  · obtain ⟨t, hwrite, -, -⟩ := write_fits s _ hle
    exact ⟨_, t, .stored hle hwrite⟩

theorem Attempt.writeAll_cons (h : Attempt x s report t) (xs : List IpAddress) :
    writeAll s (x :: xs) = (report :: (writeAll t xs).1, (writeAll t xs).2) := by
  cases h with
  | stored _ hwrite => rw [writeAll, hwrite]
  | refused _ hwrite => rw [writeAll, hwrite]

theorem Holds.room (h : Holds size xs s) : room s = List.replicate (Sink.free s) 0 := by
  have hcells := h.cells
  rw [Sink.cells, h.written] at hcells
  exact List.append_cancel_left hcells

theorem Holds.write (h : Holds size xs s) (hfits : x.octets.length ≤ Sink.free s)
    (hwrite : Sink.write s x.octets = .ok t) : Holds size (xs ++ [x]) t := by
  obtain ⟨t', hwrite', hwritten, hroom⟩ := write_fits s _ hfits
  obtain rfl : t' = t := Except.ok.inj (hwrite'.symm.trans hwrite)
  rw [h.room, List.drop_replicate] at hroom
  have hfree : Sink.free t' = Sink.free s - x.octets.length := by rw [free_eq, hroom, List.length_replicate]
  rw [h.written, ← octetsOf_concat] at hwritten
  constructor
  · rw [Sink.cells, hwritten, hroom, hfree]
  · exact hwritten
  · have hsize := h.free
    rw [octetsOf_concat, List.length_append, hfree]
    omega

theorem Attempt.holds (h : Attempt x s report t) (hs : Holds size xs s) : Holds size (storeIfFits size xs x) t := by
  have hfits : (octetsOf xs).length + x.octets.length ≤ size ↔ x.octets.length ≤ free s := by
    rw [← hs.free]
    omega
  rw [storeIfFits]
  cases h with
  | stored hle hwrite =>
    rw [if_pos (hfits.2 hle)]
    exact hs.write hle hwrite
  | refused hlt _ =>
    rw [if_neg (mt hfits.1 (Nat.not_le.2 hlt))]
    exact hs

theorem Holds.writeAll (h : Holds size ys s) (xs : List IpAddress) :
    Holds size (xs.foldl (storeIfFits size) ys) (writeAll s xs).2 := by
  induction xs generalizing s ys with
  | nil => exact h
  | cons x xs ih =>
    obtain ⟨report, t, hattempt⟩ := exists_attempt x s
    rw [hattempt.writeAll_cons, List.foldl_cons]
    exact ih (hattempt.holds h)

theorem attempt_writeAll (s : σ) (xs : List IpAddress) {k : Nat} (hk : k < xs.length) :
    ∃ report, (writeAll s xs).1[k]? = some report ∧
      Attempt xs[k] (writeAll s (xs.take k)).2 report (writeAll s (xs.take (k + 1))).2 := by
  induction xs generalizing s k with
  | nil => cases hk
  | cons x xs ih =>
    obtain ⟨report, t, hattempt⟩ := exists_attempt x s
    rw [List.take_succ_cons, hattempt.writeAll_cons, hattempt.writeAll_cons]
    cases k with
    | zero => exact ⟨report, rfl, hattempt⟩
    | succ k =>
      rw [List.take_succ_cons, hattempt.writeAll_cons]
      exact ih t (Nat.lt_of_succ_lt_succ hk)

end Sink

theorem Space.holds_zeroed (size : Nat) : Sink.Holds size [] (zeroed size) := by
  have hfree : Sink.free (zeroed size) = size := List.length_replicate
  refine ⟨?_, rfl, hfree⟩
  rw [cells_eq, hfree]
  rfl

def readEach : List Family → β → Traced (Except ReadError (List IpAddress) × β)
  | [], b => return (.ok [], b)
  | f :: fs, b => do
    match ← Address.read f b with
    | (.ok a, rest) =>
      let (later, last) ← readEach fs rest
      return (later.map (.of a :: ·), last)
    | (.error e, rest) => return (.error e, rest)

theorem readEach_octetsOf {b : β} {tail : List UInt8} (xs : List IpAddress)
    (h : Buffer.contents b = octetsOf xs ++ tail) :
    ∃ rest, readEach (xs.map AnyFamily.family) b = ⟨(.ok xs, rest), []⟩ ∧ Buffer.contents rest = tail := by
  induction xs generalizing b with
  | nil => exact ⟨b, rfl, h⟩
  | cons x xs ih =>
    have hcontents : Buffer.contents b = x.content.octets.toList ++ (octetsOf xs ++ tail) := by
      rw [h, octetsOf, List.flatMap_cons, List.append_assoc]
      rfl
    obtain ⟨mid, hread, hmid⟩ := Address.read_append hcontents
    obtain ⟨rest, hlater, hrest⟩ := ih hmid
    refine ⟨rest, ?_, hrest⟩
    simp only [List.map_cons, readEach, hread, Traced.mk_nil_bind, hlater]
    rfl

/-- A zeroed space of any size stores the addresses that fit at their turn and refuses the others without a change; its
octets are read back as the addresses that it stores. -/
theorem Sink.writeAll_stores_fitting {σ : Type} [Sink σ] {s : σ} (hs : Holds size [] s) (xs : List IpAddress) :
    (∀ k, Holds size (fitting size (xs.take k)) (writeAll s (xs.take k)).2) ∧
    (∀ k (h : k < xs.length), ∃ report, (writeAll s xs).1[k]? = some report ∧
      Attempt xs[k] (writeAll s (xs.take k)).2 report (writeAll s (xs.take (k + 1))).2) ∧
    readEach ((fitting size xs).map AnyFamily.family) (cells (writeAll s xs).2) =
      ⟨(.ok (fitting size xs), List.replicate (free (writeAll s xs).2) 0), []⟩ := by
  have hholds (ys : List IpAddress) : Holds size (fitting size ys) (writeAll s ys).2 := hs.writeAll ys
  refine ⟨fun k => hholds (xs.take k), fun k => attempt_writeAll s xs, ?_⟩
  have hcontents : Buffer.contents (cells (writeAll s xs).2) = octetsOf (fitting size xs) ++ _ := (hholds xs).cells
  obtain ⟨rest, hread, rfl⟩ := readEach_octetsOf (fitting size xs) hcontents
  exact hread

theorem Space.narrow_stored_after_wide :
    let wide : IpAddress := .of (Address.ofOctets (f := .v6) (.replicate 16 1))
    let narrow : IpAddress := .of (Address.ofOctets (f := .v4) #v[10, 0, 0, 1])
    fitting 5 [wide, narrow] = [narrow] ∧ ∃ report, ((zeroed 5).writeAll [wide, narrow]).1[1]? = some report ∧
      Sink.Attempt narrow ((zeroed 5).writeAll [wide]).2 report ((zeroed 5).writeAll [wide, narrow]).2 :=
  ⟨by decide, (Sink.writeAll_stores_fitting (holds_zeroed 5) _).2.1 1 (by decide)⟩

end Inet
