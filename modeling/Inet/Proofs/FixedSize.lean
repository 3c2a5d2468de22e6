import Inet.Address.Lemmas
import Inet.Proofs.RegisterScan
import Inet.Proofs.Tracking

/-!
Registers of fixed size lose nothing. The words behind the gap are moved within the slots to the end of the address,
and every one of them has a slot there. So whatever the text and however long it is, a reader in registers meets no
fault, and it gives the address or the error that is read without registers.
-/

namespace Inet

theorem set_set_gap {α : Type} (front back : List α) (x z : α) (missing : Nat) :
    ((front ++ x :: (List.replicate (missing + 1) z ++ back)).set (front.length + (missing + 1)) x).set front.length z =
      front ++ List.replicate (missing + 1) z ++ x :: back := by
  have hlast : (List.replicate (missing + 1) z ++ back).set missing x = List.replicate missing z ++ x :: back := by
    rw [List.replicate_succ', List.append_assoc, List.set_append_right _ _ (by simp)]
    simp
  rw [List.set_append_right _ _ (Nat.le_add_right _ _), List.set_append_right _ _ le_rfl, Nat.add_sub_cancel_left,
    Nat.sub_self, List.set_cons_succ, List.set_cons_zero, hlast]
  simp [List.replicate_succ]

namespace Registers

variable {f : Family} {r : Registers}

theorem mirrors_finish (h : r.Sound f) :
    Mirrors (fun t s => t.Stored f ∧ ∃ mark, s = { t.scan with mark }) (r.finish f) (r.scan.finish f) := by
  unfold finish
  cases hphase : r.phase with
  | start =>
    simp only [Scan.finish, scan, mark, hphase]
    exact .refused _
  | digit =>
    simp only [Scan.finish, scan_mark_of_digit hphase]
    refine (mirrors_close h .digit _).mono ?_
    rintro t s ⟨rfl, hstored, rfl⟩
    exact ⟨hstored, _, rfl⟩
  | dot =>
    obtain rfl := h.v4_of_dot hphase
    simp only [Scan.finish, scan, mark, hphase]
    exact .refused _
  | colon =>
    obtain rfl := h.v6_of_colon hphase
    simp only [Scan.finish, scan, mark, hphase]
    cases hdoubled : r.doubled with
    | true =>
      have hleading : r.leading = false := Bool.eq_false_iff.2 fun hset => h.not_doubled_of_leading hset hdoubled
      simp only [hleading, if_true, if_neg Bool.false_ne_true]
      exact .ok ⟨h.toStored, _, rfl⟩
    | false =>
      cases r.leading <;> exact .refused _

section Gap

/-- The words that stand behind the gap are moved one after another to the end of the slots. -/
theorem exists_shiftTail {missing start i : Nat} {words : List UInt16} (hlen : words.length + (missing + 1) = 8)
    (hi : i ≤ words.length) (hstart : start ≤ i) {slots : Vector UInt16 8}
    (hslots : slots.toList = words.take i ++ List.replicate (missing + 1) 0 ++ words.drop i) :
    ∃ moved, shiftTail (missing + 1) start i slots = .ok moved ∧
      moved.toList = words.take start ++ List.replicate (missing + 1) 0 ++ words.drop start := by
  -- The words from the place that the loop has reached stand at the end, and the zeros stand in front of them.
  induction i generalizing slots with
  | zero =>
    obtain rfl := Nat.le_zero.1 hstart
    exact ⟨slots, rfl, hslots⟩
  | succ i ih =>
    rw [shiftTail]
    split_ifs with hmore
    · have hdrop : words.drop i = words[i] :: words.drop (i + 1) := List.drop_eq_getElem_cons hi
      have htake : words.take (i + 1) = words.take i ++ [words[i]] := (List.take_append_getElem hi).symm
      have hfront : (words.take i).length = i := List.length_take_of_le (Nat.le_of_succ_le hi)
      rw [htake, List.append_assoc, List.append_assoc, List.singleton_append] at hslots
      have hbound : i < 8 := by omega
      have hroom : i + (missing + 1) < 8 := by omega
      have hword : slots[i] = words[i] := by
        rw [← Vector.getElem_toList (by simpa using hbound)]
        simp only [hslots]
        rw [List.getElem_append_right hfront.le]
        simp only [hfront, Nat.sub_self, List.getElem_cons_zero]
      rw [load, dif_pos hbound]
      simp only [bind, Except.bind, store_eq_ok hroom, store_eq_ok hbound]
      apply ih (Nat.le_of_succ_le hi) hmore
      rw [Vector.toList_setIfInBounds, Vector.toList_setIfInBounds, hslots, hword, hdrop]
      have hmoved := set_set_gap (words.take i) (words.drop (i + 1)) words[i] 0 missing
      rwa [hfront] at hmoved
    · obtain rfl : start = i + 1 := by omega
      exact ⟨slots, rfl, hslots⟩

theorem toList_slots (h : r.Stored f) :
    r.slots.toList = r.slots.toList.take r.size.toNat ++ List.replicate (8 - r.size.toNat) 0 := by
  have hrest : r.slots.toList.drop r.size.toNat = List.replicate (8 - r.size.toNat) 0 := by
    refine List.eq_replicate_iff.2 ⟨by simp, fun word hword => ?_⟩
    obtain ⟨i, hi, rfl⟩ := List.getElem_of_mem hword
    rw [List.getElem_drop, Vector.getElem_toList]
    exact h.eq_zero_of_le _ _ (Nat.le_add_right _ _)
  rw [← hrest, List.take_append_drop]

theorem exists_moved (h : r.Stored f) (hshort : r.size.toNat < 8) :
    ∃ moved, shiftTail (8 - r.size.toNat) r.gapStart.toNat r.size.toNat r.slots = .ok moved ∧
      moved.toList.map UInt16.toNat = r.components.take r.gapStart.toNat ++ List.replicate (8 - r.size.toNat) 0 ++
        r.components.drop r.gapStart.toNat := by
  obtain ⟨missing, hmissing⟩ := Nat.exists_eq_add_one.2 (Nat.sub_pos_of_lt hshort)
  have hslots := toList_slots h
  have hlen : (r.slots.toList.take r.size.toNat).length = r.size.toNat := by simp [hshort.le]
  rw [components, hmissing]
  rw [hmissing] at hslots
  generalize r.slots.toList.take r.size.toNat = words at hslots hlen ⊢
  have hcount : words.length + (missing + 1) = 8 := by omega
  have hall : r.slots.toList =
      words.take r.size.toNat ++ List.replicate (missing + 1) 0 ++ words.drop r.size.toNat := by
    rw [hslots, ← hlen, List.take_length, List.drop_length, List.append_nil]
  obtain ⟨moved, hshift, hmoved⟩ := exists_shiftTail hcount hlen.ge h.gapStart_le hall
  refine ⟨moved, hshift, ?_⟩
  simp [hmoved]

end Gap

section Expand

variable (mark : Mark)

theorem expand_of_full (h : r.Stored f) (hfull : r.size.toNat = f.componentCount) :
    Scan.expand f { r.scan with mark } = .ok r.components := by
  have hlen : r.scan.components.length = f.componentCount := (length_scan_components h).trans hfull
  rw [Scan.expand, hlen, Nat.sub_self]
  cases r.scan.gap with
  | none => rfl
  | some place => simp [scan]

theorem expand_of_short (h : r.Stored f) (hgapped : ¬ r.gapped) (hshort : r.size.toNat < f.componentCount) :
    Scan.expand f { r.scan with mark } = .error (.componentCount f r.size.toNat) := by
  have hlen : r.scan.components.length = r.size.toNat := length_scan_components h
  have hgap : r.scan.gap = none := by simp [scan, hgapped]
  exact Scan.expand_eq_error_iff.2 ⟨hgap, hlen.trans_lt hshort, congrArg _ hlen.symm⟩

theorem mirrors_groups (h : r.Stored .v6) :
    Mirrors (fun gs cs => gs.toList.map UInt16.toNat = cs) r.groups (Scan.expand .v6 { r.scan with mark }) := by
  unfold groups
  split_ifs with hshort hgapped
  · obtain ⟨moved, hshift, hmoved⟩ := exists_moved h hshort
    have hlen : r.scan.components.length = r.size.toNat := length_scan_components h
    have hgap : r.scan.gap = some r.gapStart.toNat := by simp [scan, hgapped]
    simp only [Scan.expand, hgap, hlen, hshift]
    exact .ok hmoved
  · rw [expand_of_short mark h hgapped hshort]
    exact .refused _
  · have hfull : r.size.toNat = 8 := h.size_le.antisymm (Nat.not_lt.1 hshort)
    rw [expand_of_full mark h hfull]
    refine .ok ?_
    rw [components, hfull, List.take_of_length_le (by simp)]

theorem exists_narrowOctet {word : UInt16} (h : word.toNat < UInt8.size) :
    ∃ octet, narrowOctet word = .ok octet ∧ octet.toNat = word.toNat :=
  ⟨word.toUInt8, if_pos h, by rw [UInt16.toNat_toUInt8, Nat.mod_eq_of_lt h]⟩

theorem mirrors_octets (h : r.Stored .v4) :
    Mirrors (fun os cs => os.toList.map UInt8.toNat = cs) r.octets (Scan.expand .v4 { r.scan with mark }) := by
  unfold octets
  split_ifs with hfull
  · rw [expand_of_full mark h hfull]
    obtain ⟨a, ha, hvalA⟩ := exists_narrowOctet (h.lt_base 0 (by decide))
    obtain ⟨b, hb, hvalB⟩ := exists_narrowOctet (h.lt_base 1 (by decide))
    obtain ⟨c, hc, hvalC⟩ := exists_narrowOctet (h.lt_base 2 (by decide))
    obtain ⟨d, hd, hvalD⟩ := exists_narrowOctet (h.lt_base 3 (by decide))
    simp only [bind, Except.bind, ha, hb, hc, hd]
    refine .ok ?_
    simp [components, hfull, hvalA, hvalB, hvalC, hvalD, List.take_add_one]
  · have hgapped : ¬ r.gapped := fun hgapped => absurd (h.v6_of_gapped hgapped) (by decide)
    rw [expand_of_short mark h hgapped (h.size_le.lt_of_ne hfull)]
    exact .refused _

theorem mirrors_address (h : r.Stored f) :
    Mirrors Eq (r.address f) ((Scan.expand f { r.scan with mark }).map (Address.ofComponents f)) := by
  cases f with
  | v4 => exact (mirrors_octets mark h).map fun hoctets => congrArg (Address.ofComponents .v4) hoctets
  | v6 => exact (mirrors_groups mark h).map fun hgroups => congrArg (Address.ofComponents .v6) hgroups

end Expand

theorem mirrors_parse (f : Family) (text : String) : Mirrors Eq (parse f text) (Address.parse f text) := by
  refine (mirrors_run (sound_start f) 0 text.toList).bind ?_
  rintro r _ ⟨hsound, rfl⟩
  refine (mirrors_finish hsound).bind ?_
  rintro t _ ⟨hstored, mark, rfl⟩
  exact mirrors_address mark hstored

/-- The registers are sound after every text that they have read, also once its end closes the last component, and no
operation on them is ever inexact. They stand for the scan of the same text, or stop with its error at the same
character, and they read the same address. -/
theorem parse_exact (f : Family) :
    (∀ cs r, start.run f 0 cs = .ok r → r.Sound f ∧ ∀ t, r.finish f = .ok t → t.Stored f) ∧
    (∀ cs, (start.run f 0 cs).map scan = (Scan.start.run f 0 cs).mapError .refused) ∧
    (∀ text, parse f text = (Address.parse f text).mapError .refused) ∧
    (∀ text fault, parse f text ≠ .error (.fault fault)) := by
  have hrun (cs : List Char) : Mirrors (Represents f) (start.run f 0 cs) (Scan.start.run f 0 cs) :=
    mirrors_run (sound_start f) 0 cs
  refine ⟨fun cs r hok => ?_, fun cs => ?_, fun text => ?_, fun text => (mirrors_parse f text).ne_fault⟩
  · obtain ⟨_, _, hsound, _⟩ := (hrun cs).of_ok hok
    refine ⟨hsound, fun t hfinish => ?_⟩
    obtain ⟨_, _, hstored, _⟩ := (mirrors_finish hsound).of_ok hfinish
    exact hstored
  · exact ((hrun cs).mono fun hrep => hrep.2).map_eq
  · have hparse := (mirrors_parse f text).map_eq (g := id)
    rwa [Except.map_id] at hparse

theorem parse_exact_gapped : ∃ r t, start.run .v6 0 "ffff:1::8:ab".toList = .ok r ∧ r.finish .v6 = .ok t ∧
    r.Sound .v6 ∧ t.Stored .v6 ∧ t.components = [65535, 1, 8, 171] := by
  have hrun : start.run .v6 0 "ffff:1::8:ab".toList =
      .ok ⟨.digit, true, false, false, 3, #v[65535, 1, 8, 0, 0, 0, 0, 0], 2, 10, 2, 171⟩ := by decide
  obtain ⟨hsound, hend⟩ := (parse_exact .v6).1 _ _ hrun
  have hfinish : finish .v6 ⟨.digit, true, false, false, 3, #v[65535, 1, 8, 0, 0, 0, 0, 0], 2, 10, 2, 171⟩ =
      .ok ⟨.digit, true, false, false, 4, #v[65535, 1, 8, 171, 0, 0, 0, 0], 2, 10, 0, 0⟩ := by decide
  exact ⟨_, _, hrun, hfinish, hsound, hend _ hfinish, by decide⟩

-- The last two groups are moved to the end, past the places that the gap stands for.
example : (parse .v6 "1:2::7:8").map Address.components = .ok [1, 2, 0, 0, 0, 0, 7, 8] := by decide

end Registers

end Inet
