import Inet.Address.Lemmas
import Inet.Stream

/-!
Streams are cut into addresses of one width. Reading a buffer to its end gives its octets in order, a whole address at a
time, and stops with a remainder too short for another. The way in which the buffer keeps its octets has no part in it.
-/

namespace Inet

variable {β : Type} [Buffer β] {f : Family} {b rest : β} {a : Address f} {tail : List UInt8}

namespace Address

theorem length_octets (a : Address f) : a.octets.toList.length = f.octetCount := a.octets.length_toList

theorem exists_octets_append {os : List UInt8} (h : f.octetCount ≤ os.length) :
    ∃ (a : Address f) (tail : List UInt8), os = a.octets.toList ++ tail := by
  have hlen : (os.take f.octetCount).toArray.size = f.octetCount := List.length_take_of_le h
  refine ⟨ofOctets ⟨(os.take f.octetCount).toArray, hlen⟩, os.drop f.octetCount, ?_⟩
  rw [octets_ofOctets]
  exact (List.take_append_drop f.octetCount os).symm

theorem read_append (h : Buffer.contents b = a.octets.toList ++ tail) :
    ∃ rest, read f b = ⟨(.ok a, rest), []⟩ ∧ Buffer.contents rest = tail := by
  have hlen := a.length_octets
  have hle : f.octetCount ≤ Buffer.remaining b := by
    rw [Buffer.remaining_eq, h, List.length_append, hlen]
    exact Nat.le_add_right _ _
  have htaken : (Buffer.copy b f.octetCount hle).1 = a.octets := by
    apply Vector.toList_inj.1
    rw [Buffer.toList_copy, h, List.take_left' hlen]
  refine ⟨(Buffer.copy b f.octetCount hle).2, ?_, ?_⟩
  · rw [read, dif_pos hle]
    simp only [htaken, ofOctets_octets]
    rfl
  · rw [Buffer.contents_copy, h, List.drop_left' hlen]

theorem read_short (h : (Buffer.contents b).length < f.octetCount) :
    read f b = ⟨(.error ⟨f.octetCount, (Buffer.contents b).length⟩, b), [.shortRead f (Buffer.contents b).length]⟩ := by
  have hlt : ¬ f.octetCount ≤ Buffer.remaining b := by
    rw [Buffer.remaining_eq]
    exact Nat.not_le.2 h
  rw [read, dif_neg hlt, Buffer.remaining_eq]
  rfl

end Address

theorem readAll_of_ok {events : List TraceEvent} (h : Address.read f b = ⟨(.ok a, rest), events⟩) :
    readAll f b = ⟨{ (readAll f rest).result with items := (a, rest) :: (readAll f rest).result.items },
      events ++ (readAll f rest).events⟩ := by
  rw [readAll]
  split
  next h' => cases h.symm.trans h'
  next h' =>
    cases h.symm.trans h'
    rfl

theorem readAll_of_error {e : ReadError} {events : List TraceEvent}
    (h : Address.read f b = ⟨(.error e, rest), events⟩) : readAll f b = ⟨⟨[], e, rest⟩, events⟩ := by
  rw [readAll]
  split
  next h' =>
    cases h.symm.trans h'
    rfl
  next h' => cases h.symm.trans h'

structure Framed (os : List UInt8) (r : Traced (Readout f β)) : Prop where
  whole : r.result.items.flatMap (fun item => item.1.octets.toList) ++ Buffer.contents r.result.rest = os
  count : r.result.items.length = os.length / f.octetCount
  address : ∀ i (h : i < r.result.items.length),
    r.result.items[i].1.octets.toList = (os.drop (i * f.octetCount)).take f.octetCount
  left : ∀ i (h : i < r.result.items.length),
    Buffer.contents r.result.items[i].2 = os.drop ((i + 1) * f.octetCount)
  stop : r.result.stop = ⟨f.octetCount, os.length % f.octetCount⟩
  rest : Buffer.contents r.result.rest = os.drop (os.length - os.length % f.octetCount)
  events : r.events = [.shortRead f (os.length % f.octetCount)]

theorem framed_of_short (h : (Buffer.contents b).length < f.octetCount) :
    Framed (f := f) (Buffer.contents b)
      ⟨⟨[], ⟨f.octetCount, (Buffer.contents b).length⟩, b⟩, [.shortRead f (Buffer.contents b).length]⟩ where
  whole := rfl
  count := (Nat.div_eq_of_lt h).symm
  address _ hi := absurd hi (Nat.not_lt_zero _)
  left _ hi := absurd hi (Nat.not_lt_zero _)
  stop := by rw [Nat.mod_eq_of_lt h]
  rest := by rw [Nat.mod_eq_of_lt h, Nat.sub_self, List.drop_zero]
  events := by rw [Nat.mod_eq_of_lt h]

theorem Framed.cons {r : Traced (Readout f β)} (h : Framed tail r) (hrest : Buffer.contents rest = tail) :
    Framed (a.octets.toList ++ tail)
      ⟨{ r.result with items := (a, rest) :: r.result.items }, [] ++ r.events⟩ := by
  have hlen := a.length_octets
  have hdrop (i : Nat) : (a.octets.toList ++ tail).drop ((i + 1) * f.octetCount) = tail.drop (i * f.octetCount) := by
    rw [Nat.succ_mul, Nat.add_comm, ← List.drop_drop, List.drop_left' hlen]
  have hcount : (a.octets.toList ++ tail).length = f.octetCount + tail.length := by rw [List.length_append, hlen]
  have hmod : (a.octets.toList ++ tail).length % f.octetCount = tail.length % f.octetCount := by
    rw [hcount, Nat.add_mod_left]
  constructor
  · rw [List.flatMap_cons, List.append_assoc, h.whole]
  · rw [hcount, Nat.add_div_left _ f.octetCount_pos, ← h.count]
    rfl
  · intro i hi
    cases i with
    | zero => simp [List.take_left' hlen]
    | succ i =>
      rw [hdrop]
      exact h.address i (Nat.lt_of_succ_lt_succ hi)
  · intro i hi
    cases i with
    | zero => simpa [hdrop] using hrest
    | succ i =>
      rw [hdrop]
      exact h.left i (Nat.lt_of_succ_lt_succ hi)
  · rw [hmod, ← h.stop]
  · have hle : tail.length % f.octetCount ≤ tail.length := Nat.mod_le _ _
    rw [hmod, hcount, Nat.add_sub_assoc hle, ← List.drop_drop, List.drop_left' hlen]
    exact h.rest
  · rw [hmod]
    exact h.events

theorem framed_readAll (f : Family) (b : β) : Framed (Buffer.contents b) (readAll f b) := by
  -- Each read leaves another buffer, so the induction is on the number of octets that are left.
  generalize hn : (Buffer.contents b).length = n
  induction n using Nat.strongRecOn generalizing b with
  | _ n ih =>
    rcases Nat.lt_or_ge (Buffer.contents b).length f.octetCount with hlt | hge
    · rw [readAll_of_error (Address.read_short hlt)]
      exact framed_of_short hlt
    · obtain ⟨a, tail, hcontents⟩ := Address.exists_octets_append (f := f) hge
      obtain ⟨rest, hread, hrest⟩ := Address.read_append hcontents
      have hshorter : tail.length < n := by
        rw [← hn, hcontents, List.length_append, a.length_octets]
        exact Nat.lt_add_of_pos_left f.octetCount_pos
      have hlater := ih tail.length hshorter rest (congrArg List.length hrest)
      rw [hrest] at hlater
      rw [readAll_of_ok hread, hcontents]
      exact hlater.cons hrest

/-- Reading a buffer to its end loses nothing and repeats nothing, and only the read that fails is traced. -/
theorem readAll_frames_contents (f : Family) (b : β) :
    Framed (Buffer.contents b) (readAll f b) ∧
    (∀ i (h : i < (readAll f b).result.items.length),
      Buffer.remaining (readAll f b).result.items[i].2 = Buffer.remaining b - (i + 1) * f.octetCount) ∧
    (readAll f b).events.map TraceEvent.line =
      [(if f = .v4 then "Ipv4Address" else "Ipv6Address") ++ ": cannot read address, remaining=" ++
        toString (Buffer.remaining b % f.octetCount)] := by
  have hframed := framed_readAll f b
  refine ⟨hframed, fun i h => ?_, ?_⟩
  · rw [Buffer.remaining_eq, Buffer.remaining_eq, hframed.left i h, List.length_drop]
  · rw [hframed.events, Buffer.remaining_eq]
    cases f <;> rfl

theorem readAll_five_octets : ∃ h : 0 < (readAll .v4 ([10, 0, 0, 1, 7] : List UInt8)).result.items.length,
    Buffer.remaining (readAll .v4 ([10, 0, 0, 1, 7] : List UInt8)).result.items[0].2 = 1 := by
  obtain ⟨hframed, hleft, _⟩ := readAll_frames_contents .v4 ([10, 0, 0, 1, 7] : List UInt8)
  have hpos : 0 < (readAll .v4 ([10, 0, 0, 1, 7] : List UInt8)).result.items.length := by
    rw [hframed.count]
    decide
  exact ⟨hpos, hleft 0 hpos⟩

end Inet
