import Mathlib.Data.List.Induction
import Mathlib.Tactic.SplitIfs
import Inet.Address.Text

/-!
Zero runs. The run that a compressed text leaves out holds zeros only, no stretch of zeros is longer, and no stretch as
long begins before it. No other place and length have these properties.
-/

namespace Inet

def ZerosAt (gs : List Nat) (start length : Nat) : Prop := (gs.drop start).take length = List.replicate length 0

instance (gs : List Nat) (start length : Nat) : Decidable (ZerosAt gs start length) :=
  inferInstanceAs (Decidable (_ = _))

/-- Zeros stand at the place, no longer stretch of zeros stands anywhere, and none as long begins before it. -/
structure LongestZeros (gs : List Nat) (start length : Nat) : Prop where
  zeros : ZerosAt gs start length
  longest : ∀ start' length', ZerosAt gs start' length' → length' ≤ length
  leftmost : ∀ start', ZerosAt gs start' length → start ≤ start'

structure ClosingZeros (gs : List Nat) (start length : Nat) : Prop where
  zeros : ZerosAt gs start length
  ending : start + length = gs.length
  longest : ∀ start' length', ZerosAt gs start' length' → start' + length' = gs.length → length' ≤ length

variable {g start length start' length' : Nat} {gs : List Nat}

namespace ZerosAt

theorem mono {shorter : Nat} (h : ZerosAt gs start length) (hle : shorter ≤ length) : ZerosAt gs start shorter := by
  have htake := congrArg (List.take shorter) h
  rwa [List.take_take, List.take_replicate, Nat.min_eq_left hle] at htake

theorem split (h : ZerosAt gs start length) :
    gs.take start ++ List.replicate length 0 ++ gs.drop (start + length) = gs := by
  rw [← List.drop_drop, ← h, List.append_assoc, List.take_append_drop, List.take_append_drop]

end ZerosAt

theorem zerosAt_zero (gs : List Nat) (start : Nat) : ZerosAt gs start 0 := List.take_zero

theorem ZerosAt.ending_le (h : ZerosAt gs start length) (hpos : 0 < length) : start + length ≤ gs.length := by
  have hlen := congrArg List.length h
  rw [List.length_take, List.length_drop, List.length_replicate] at hlen
  omega

theorem zerosAt_concat_of_le (h : start + length ≤ gs.length) :
    ZerosAt (gs ++ [g]) start length ↔ ZerosAt gs start length := by
  have hstart : start ≤ gs.length := Nat.le_of_add_right_le h
  have hlength : length ≤ (gs.drop start).length := by
    rw [List.length_drop]
    omega
  rw [ZerosAt, ZerosAt, List.drop_append_of_le_length hstart, List.take_append_of_le_length hlength]

theorem zerosAt_concat_of_ending (h : start + length = gs.length) :
    ZerosAt (gs ++ [g]) start (length + 1) ↔ ZerosAt gs start length ∧ g = 0 := by
  have hstart : start ≤ gs.length := Nat.le_of_add_right_le (Nat.le_of_eq h)
  have hlength : (gs.drop start).length = length := by
    rw [List.length_drop]
    omega
  rw [ZerosAt, ZerosAt, List.drop_append_of_le_length hstart, List.take_of_length_le (by simp [hlength]),
    List.take_of_length_le (Nat.le_of_eq hlength), List.replicate_succ', List.append_singleton_inj]

theorem ZerosAt.of_concat (h : ZerosAt (gs ++ [g]) start length) :
    ZerosAt gs start length ∨ start + length = (gs ++ [g]).length := by
  rcases Nat.eq_zero_or_pos length with rfl | hpos
  · exact .inl (zerosAt_zero gs start)
  · have hle := h.ending_le hpos
    rcases Nat.lt_or_eq_of_le hle with hlt | heq
    · rw [List.length_append, List.length_singleton, Nat.lt_succ_iff] at hlt
      exact .inl ((zerosAt_concat_of_le hlt).1 h)
    · exact .inr heq

namespace ClosingZeros

theorem concat_zero (h : ClosingZeros gs start length) : ClosingZeros (gs ++ [0]) start (length + 1) where
  zeros := (zerosAt_concat_of_ending h.ending).2 ⟨h.zeros, rfl⟩
  ending := by rw [List.length_append, List.length_singleton, ← h.ending, Nat.add_assoc]
  longest start' length' hzeros hending := by
    cases length' with
    | zero => exact Nat.zero_le _
    | succ length' =>
      have hending' : start' + length' = gs.length := by simpa [← Nat.add_assoc] using hending
      have hzeros' := (zerosAt_concat_of_ending hending').1 hzeros
      exact Nat.succ_le_succ (h.longest _ _ hzeros'.1 hending')

theorem concat_other (gs : List Nat) (hg : g ≠ 0) : ClosingZeros (gs ++ [g]) (gs.length + 1) 0 where
  zeros := zerosAt_zero _ _
  ending := by simp
  longest start' length' hzeros hending := by
    cases length' with
    | zero => exact Nat.le_refl 0
    | succ length' =>
      have hending' : start' + length' = gs.length := by simpa [← Nat.add_assoc] using hending
      exact absurd ((zerosAt_concat_of_ending hending').1 hzeros).2 hg

end ClosingZeros

namespace LongestZeros

theorem unique (h : LongestZeros gs start length) (h' : LongestZeros gs start' length') :
    start = start' ∧ length = length' := by
  obtain rfl : length = length' := Nat.le_antisymm (h'.longest _ _ h.zeros) (h.longest _ _ h'.zeros)
  exact ⟨Nat.le_antisymm (h.leftmost _ h'.zeros) (h'.leftmost _ h.zeros), rfl⟩

theorem concat_longer (h : LongestZeros gs start length) (hclosing : ClosingZeros (gs ++ [g]) start' length')
    (hlt : length < length') : LongestZeros (gs ++ [g]) start' length' where
  zeros := hclosing.zeros
  longest s l hzeros := by
    rcases hzeros.of_concat with hbefore | hending
    · exact Nat.le_trans (h.longest s l hbefore) (Nat.le_of_lt hlt)
    · exact hclosing.longest s l hzeros hending
  leftmost s hzeros := by
    rcases hzeros.of_concat with hbefore | hending
    · exact absurd (h.longest s length' hbefore) (Nat.not_le.2 hlt)
    · have hending' := hclosing.ending
      omega

theorem concat_kept (h : LongestZeros gs start length) (hclosing : ClosingZeros (gs ++ [g]) start' length')
    (hle : length' ≤ length) : LongestZeros (gs ++ [g]) start length where
  zeros := by
    rcases Nat.eq_zero_or_pos length with rfl | hpos
    · exact zerosAt_zero _ _
    · exact (zerosAt_concat_of_le (h.zeros.ending_le hpos)).2 h.zeros
  longest s l hzeros := by
    rcases hzeros.of_concat with hbefore | hending
    · exact h.longest s l hbefore
    · exact Nat.le_trans (hclosing.longest s l hzeros hending) hle
  leftmost s hzeros := by
    rcases hzeros.of_concat with hbefore | hending
    · exact h.leftmost s hbefore
    · rw [List.length_append, List.length_singleton] at hending
      rcases Nat.eq_zero_or_pos length with rfl | hpos
      · exact h.leftmost s (zerosAt_zero gs s)
      · have hending' := h.zeros.ending_le hpos
        omega

end LongestZeros

namespace ZeroPass

variable {p : ZeroPass}

/-- What a pass tells of the list that it has read. -/
structure Tracks (gs : List Nat) (p : ZeroPass) : Prop where
  index : p.index = gs.length
  closing : ClosingZeros gs p.runStart p.current.length
  best : LongestZeros gs p.best.start p.best.length

theorem tracks_start : Tracks [] .start where
  index := rfl
  closing := ⟨rfl, rfl, fun _ _ _ hending => Nat.le_of_eq (Nat.add_eq_zero_iff.1 hending).2⟩
  best := by
    refine ⟨rfl, fun s l hzeros => ?_, fun _ _ => Nat.zero_le _⟩
    rcases Nat.eq_zero_or_pos l with rfl | hpos
    · exact Nat.le_refl 0
    · exact Nat.le_of_add_left_le (hzeros.ending_le hpos)

theorem Tracks.step (h : Tracks gs p) (g : Nat) : Tracks (gs ++ [g]) (p.step g) := by
  have hindex : p.index + 1 = (gs ++ [g]).length := by rw [h.index, List.length_append, List.length_singleton]
  rw [ZeroPass.step]
  split_ifs with hg
  · subst hg
    have hclosing := h.closing.concat_zero
    refine ⟨hindex, hclosing, ?_⟩
    dsimp only
    split_ifs with hlt
    · exact h.best.concat_longer hclosing hlt
    · exact h.best.concat_kept hclosing (Nat.not_lt.1 hlt)
  · have hclosing := ClosingZeros.concat_other gs hg
    refine ⟨hindex, ?_, h.best.concat_kept hclosing (Nat.zero_le _)⟩
    rw [← h.index] at hclosing
    exact hclosing

theorem tracks_foldl (gs : List Nat) : Tracks gs (gs.foldl step .start) := by
  induction gs using List.reverseRecOn with
  | nil => exact tracks_start
  | append_singleton gs g ih =>
    rw [List.foldl_append]
    exact ih.step g

end ZeroPass

theorem longestZeros_longestZeroRun (gs : List Nat) :
    LongestZeros gs (longestZeroRun gs).start (longestZeroRun gs).length := (ZeroPass.tracks_foldl gs).best

theorem longestZeros_iff : LongestZeros gs start length ↔ longestZeroRun gs = ⟨start, length⟩ := by
  have hrun := longestZeros_longestZeroRun gs
  constructor
  · intro h
    obtain ⟨rfl, rfl⟩ := h.unique hrun
    rfl
  · intro h
    rwa [h] at hrun

example : longestZeroRun [1, 0, 0, 4, 0, 0, 7, 8] = ⟨1, 2⟩ := by decide

end Inet
