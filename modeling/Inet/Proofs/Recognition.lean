import Inet.Proofs.ScanMove

/-!
Scans recognise the grammar. A scan mirrors the text that it has read: the components that it holds are those of the
text, cut at the gap, and its mark says how the text ends. From this every accepted text is in the grammar; running a
scan along a text of the grammar shows that it is accepted, with the components that it spells.
-/

namespace Inet

/-- A stretch of text from the start, or from the gap, up to a mark. The components closed in it are `ns`. -/
inductive Stretch (f : Family) : Bool → Mark → List Char → List Nat → Prop where
  | start : Stretch f false .start [] []
  | gap : Stretch f true .gap [] []
  | leadingColon : Stretch f false .leadingColon [':'] []
  | closed {afterGap : Bool} {mark : Mark} {cs : List Char} {ns : List Nat} :
    Terminated f cs ns → ns ≠ [] → mark = f.closedMark → Stretch f afterGap mark cs ns
  | digits {afterGap : Bool} {cs ds : List Char} {ns : List Nat} {first value : Nat} :
    Terminated f cs ns → Numeral.Spells f.radix ds value → ds ≠ [] → ds.length ≤ f.maxDigits →
      Stretch f afterGap (.digits first ds.length value) (cs ++ ds) ns

inductive Scan.Reads : Family → List Char → Scan → Prop where
  | ungapped {f : Family} {mark : Mark} {cs : List Char} {ns : List Nat} :
    Stretch f false mark cs ns → Reads f cs ⟨ns, none, mark⟩
  | gapped {mark : Mark} {left right : List Char} {ls rs : List Nat} :
    Joined .v6 left ls → Stretch .v6 true mark right rs →
      Reads .v6 (left ++ ':' :: ':' :: right) ⟨ls ++ rs, some ls.length, mark⟩

namespace Stretch

variable {f : Family} {afterGap : Bool} {mark : Mark} {cs : List Char} {c : Char} {ns : List Nat}
variable {first count value d : Nat}

theorem closedMark_ne_digits : Mark.digits first count value ≠ f.closedMark := by
  cases f <;> exact nofun

theorem terminated (h : Stretch f afterGap mark cs ns) (hmark : mark.Open) : Terminated f cs ns := by
  cases h with
  | start => exact .nil
  | gap => exact .nil
  | leadingColon => cases hmark
  | closed h _ _ => exact h
  | digits _ _ _ _ => cases hmark

theorem beginDigits (h : Stretch f afterGap mark cs ns) (hmark : mark.Open) (hc : Numeral.Writes f.radix c d) :
    Stretch f afterGap (.digits first 1 d) (cs ++ [c]) ns := by
  have hspells : Numeral.Spells f.radix [c] d := by simpa using Numeral.Spells.nil.snoc hc
  have hmax : [c].length ≤ f.maxDigits := by cases f <;> simp [Family.maxDigits]
  exact .digits (h.terminated hmark) hspells (List.cons_ne_nil _ _) hmax

theorem extendDigits (h : Stretch f afterGap (.digits first count value) cs ns) (hcount : count < f.maxDigits)
    (hc : Numeral.Writes f.radix c d) :
    Stretch f afterGap (.digits first (count + 1) (value * f.radix + d)) (cs ++ [c]) ns := by
  cases h with
  | closed _ _ hmark => exact absurd hmark closedMark_ne_digits
  | @digits _ cs ds _ _ _ h hspells _ _ =>
    have hlen : (ds ++ [c]).length ≤ f.maxDigits := by simpa using Nat.succ_le_of_lt hcount
    have hstretch : Stretch f afterGap (.digits first (ds ++ [c]).length _) _ ns :=
      .digits h (hspells.snoc hc) (by simp) hlen
    simpa using hstretch

theorem component (h : Stretch f afterGap (.digits first count value) cs ns) (hvalue : value < f.componentBase) :
    ∃ ds es, cs = ds ++ es ∧ Terminated f ds ns ∧ Component f es value := by
  cases h with
  | closed _ _ hmark => exact absurd hmark closedMark_ne_digits
  | digits h hspells hne hlen => exact ⟨_, _, rfl, h, hspells, hne, hlen, hvalue⟩

theorem close (h : Stretch f afterGap (.digits first count value) cs ns) (hvalue : value < f.componentBase) :
    Stretch f afterGap f.closedMark (cs ++ [f.separator]) (ns ++ [value]) := by
  obtain ⟨ds, es, rfl, hds, hes⟩ := h.component hvalue
  exact .closed (hds.snoc hes) (by simp) rfl

theorem joined (h : Stretch f afterGap (.digits first count value) cs ns) (hvalue : value < f.componentBase) :
    Joined f cs (ns ++ [value]) := by
  obtain ⟨ds, es, rfl, hds, hes⟩ := h.component hvalue
  exact .snoc hds hes

theorem eq_nil_of_gap (h : Stretch f afterGap .gap cs ns) : cs = [] ∧ ns = [] ∧ afterGap = true := by
  cases h with
  | gap => exact ⟨rfl, rfl, rfl⟩
  | closed _ _ hmark => cases f <;> cases hmark

end Stretch

namespace Scan

variable {f : Family} {s t : Scan} {position : Nat} {cs : List Char} {c : Char} {ns : List Nat}

theorem Reads.extend {mark : Mark} (h : Reads f cs s)
    (hstretch : ∀ afterGap ds ms, Stretch f afterGap s.mark ds ms → Stretch f afterGap mark (ds ++ [c]) (ms ++ ns)) :
    Reads f (cs ++ [c]) { s with components := s.components ++ ns, mark } := by
  cases h with
  | ungapped h => exact .ungapped (hstretch _ _ _ h)
  | gapped hleft h => simpa using Reads.gapped hleft (hstretch _ _ _ h)

theorem Reads.move (h : Reads f cs s) (hmove : Move f s position c t) : Reads f (cs ++ [c]) t := by
  cases hmove with
  -- Digits and a closing separator act on the last stretch only, so `extend` covers both sides of a gap at once.
  | @beginDigits _ _ _ d _ hmark hc =>
    have hnew : Reads f (cs ++ [c]) ⟨s.components ++ [], s.gap, .digits position 1 d⟩ := by
      refine h.extend fun _ _ _ hs => ?_
      simpa using hs.beginDigits hmark hc
    simpa using hnew
  | @extendDigits _ _ _ first count value d _ hmark hcount hc =>
    have hnew : Reads f (cs ++ [c]) ⟨s.components ++ [], s.gap, .digits first (count + 1) (value * f.radix + d)⟩ := by
      refine h.extend fun _ _ _ hs => ?_
      rw [hmark] at hs
      simpa using hs.extendDigits hcount hc
    simpa using hnew
  | close hmark _ hvalue =>
    refine h.extend fun _ _ _ hs => ?_
    rw [hmark] at hs
    exact hs.close hvalue
  -- The other colons move the mark at the cut itself, which has to be looked at.
  | leadingColon hmark =>
    cases h with
    | ungapped h =>
      cases hmark
      cases h with
      | start => exact .ungapped .leadingColon
      | closed _ _ hmark => cases hmark
    | gapped _ h =>
      cases hmark
      cases h with
      | closed _ _ hmark => cases hmark
  | gap hmark hgap =>
    cases h with
    | gapped _ _ => cases hgap
    | ungapped h =>
      -- What has been read so far becomes the left side of the gap, without its last colon.
      cases h with
      | start => cases hmark
      | leadingColon => exact .gapped .nil .gap
      | @closed _ _ _ ns h hne _ =>
        obtain ⟨ds, hds, rfl⟩ := h.cut hne
        simpa [Family.separator] using Reads.gapped hds .gap
      | digits _ _ _ _ => cases hmark

theorem reads_of_run (h : start.run f 0 cs = .ok s) : Reads f cs s := run_induction (.ungapped .start) Reads.move h

theorem length_components_le_of_run (h : start.run f 0 cs = .ok s) : s.components.length ≤ f.componentCount := by
  refine run_induction (P := fun _ s => s.components.length ≤ f.componentCount) (Nat.zero_le _) ?_ h
  intro cs s c t hs hmove
  cases hmove with
  | close _ hlen _ => simpa using Nat.succ_le_of_lt hlen
  | _ => exact hs

theorem finish_eq_ok_iff : s.finish f = .ok t ↔ (s.mark = .gap ∧ t = s) ∨
    ∃ first count value, s.mark = .digits first count value ∧ s.components.length < f.componentCount ∧
      value < f.componentBase ∧ t = { s with components := s.components ++ [value] } := by
  unfold finish
  split
  next hmark => simp [hmark]
  next hmark => simp [hmark, close_eq_ok_iff]
  next hmark => simp [hmark, eq_comm]
  all_goals
    rename_i hmark
    simp [hmark]

theorem expand_ungapped_eq_ok_iff {ms : List Nat} {mark : Mark} :
    expand f ⟨ms, none, mark⟩ = .ok ns ↔ f.componentCount ≤ ms.length ∧ ns = ms := by
  simp only [expand]
  split_ifs with hmissing
  · simp [Nat.sub_eq_zero_iff_le.1 hmissing, eq_comm]
  · simp [mt Nat.sub_eq_zero_of_le hmissing]

theorem expand_gapped (ls rs : List Nat) (mark : Mark) : expand .v6 ⟨ls ++ rs, some ls.length, mark⟩ =
    .ok (ls ++ List.replicate (8 - (ls.length + rs.length)) 0 ++ rs) := by
  simp [expand, Family.componentCount]

theorem Reads.addressText (h : Reads f cs s) (hlen : s.components.length ≤ f.componentCount)
    (hfinish : s.finish f = .ok t) (hexpand : t.expand f = .ok ns) : AddressText f cs ns := by
  rcases finish_eq_ok_iff.1 hfinish with ⟨hmark, rfl⟩ | ⟨first, count, value, hmark, hlt, hvalue, rfl⟩
  · cases h with
    | ungapped h =>
      cases hmark
      cases h.eq_nil_of_gap.2.2
    | gapped hleft h =>
      cases hmark
      obtain ⟨rfl, rfl, _⟩ := h.eq_nil_of_gap
      rw [expand_gapped] at hexpand
      injection hexpand with hns
      exact hns ▸ .gapped hleft .nil (by simpa [Family.componentCount] using hlen)
  · cases h with
    | @ungapped _ _ _ ns h =>
      cases hmark
      obtain ⟨hcount, rfl⟩ := expand_ungapped_eq_ok_iff.1 hexpand
      have hle : (ns ++ [value]).length ≤ f.componentCount := by simpa using Nat.succ_le_of_lt hlt
      exact .full (h.joined hvalue) (hle.antisymm hcount)
    | gapped hleft h =>
      cases hmark
      rw [List.append_assoc, expand_gapped] at hexpand
      injection hexpand with hns
      simp only [List.length_append, Family.componentCount] at hlt
      refine hns ▸ .gapped hleft (h.joined hvalue) ?_
      rw [List.length_append, List.length_singleton]
      omega

theorem run_digits {ds : List Nat} (h : List.Forall₂ (Numeral.Writes f.radix) cs ds) {first count value : Nat}
    (hmark : s.mark = .digits first count value) (hlen : count + cs.length ≤ f.maxDigits) :
    s.run f position cs =
      .ok { s with mark := .digits first (count + cs.length) (ds.foldl (fun n d => n * f.radix + d) value) } := by
  induction h generalizing s position count value with
  | nil => simp [run, ← hmark]
  | @cons c d cs ds hc _ ih =>
    rw [List.length_cons] at hlen
    refine run_cons_eq_ok_iff.2 ⟨_, .extendDigits hmark (by omega) hc, ?_⟩
    rw [ih rfl (by omega), List.length_cons, List.foldl_cons, Nat.add_right_comm, Nat.add_assoc]

theorem run_component {n : Nat} (h : Component f cs n) (hmark : s.mark.Open) :
    ∃ first count, s.run f position cs = .ok { s with mark := .digits first count n } := by
  obtain ⟨⟨ds, hds, rfl⟩, hne, hlen, _⟩ := h
  cases hds with
  | nil => exact absurd rfl hne
  | @cons c d cs ds hc hds =>
    rw [List.length_cons, Nat.add_comm] at hlen
    refine ⟨position, 1 + cs.length, run_cons_eq_ok_iff.2 ⟨_, .beginDigits hmark hc, ?_⟩⟩
    rw [run_digits hds rfl hlen]
    simp [Numeral.value]

theorem run_append_component {ds : List Char} {n : Nat} {mark : Mark} {place : Option Nat}
    (hrun : s.run f position cs = .ok ⟨ns, place, mark⟩) (hmark : mark.Open) (hd : Component f ds n) :
    ∃ first count, s.run f position (cs ++ ds) = .ok ⟨ns, place, .digits first count n⟩ := by
  obtain ⟨later, hlater⟩ := run_append_of_ok hrun ds
  rw [hlater]
  exact run_component hd hmark

theorem closedMark_open : f.closedMark.Open := by
  cases f
  · exact .dot
  · exact .colon

theorem run_terminated (h : Terminated f cs ns) (hmark : s.mark.Open)
    (hlen : s.components.length + ns.length ≤ f.componentCount) :
    ∃ mark, s.run f position cs = .ok ⟨s.components ++ ns, s.gap, mark⟩ ∧ mark.Open ∧
      (ns ≠ [] → mark = f.closedMark) := by
  induction h with
  | nil => exact ⟨s.mark, by simp [run], hmark, fun hne => absurd rfl hne⟩
  | @snoc cs ds ns n _ hd ih =>
    rw [List.length_append, List.length_singleton] at hlen
    obtain ⟨mark, hrun, hopen, _⟩ := ih (by omega)
    obtain ⟨first, count, hdigits⟩ := run_append_component hrun hopen hd
    have hroom : (s.components ++ ns).length < f.componentCount := by
      rw [List.length_append]
      omega
    have hclosed := run_concat hdigits fun _ => .close rfl hroom hd.lt
    rw [← List.append_assoc]
    exact ⟨f.closedMark, hclosed, closedMark_open, fun _ => rfl⟩

theorem run_joined (h : Joined f cs ns) (hne : ns ≠ []) (hmark : s.mark.Open)
    (hlen : s.components.length + ns.length ≤ f.componentCount) :
    ∃ t, s.run f position cs = .ok t ∧ t.finish f = .ok ⟨s.components ++ ns, s.gap, t.mark⟩ := by
  cases h with
  | nil => exact absurd rfl hne
  | @snoc cs ds ns n h hd =>
    rw [List.length_append, List.length_singleton] at hlen
    obtain ⟨mark, hrun, hopen, _⟩ := run_terminated h hmark (by omega)
    obtain ⟨first, count, hdigits⟩ := run_append_component hrun hopen hd
    have hroom : (s.components ++ ns).length < f.componentCount := by
      rw [List.length_append]
      omega
    rw [← List.append_assoc]
    refine ⟨_, hdigits, finish_eq_ok_iff.2 (.inr ?_)⟩
    exact ⟨first, count, n, rfl, hroom, hd.lt, rfl⟩

theorem run_gap {left : List Char} {ls : List Nat} (h : Joined .v6 left ls) (hlen : ls.length ≤ 8) :
    start.run .v6 0 (left ++ [':', ':']) = .ok ⟨ls, some ls.length, .gap⟩ := by
  rcases eq_or_ne ls [] with rfl | hne
  · rw [h.eq_nil]
    rfl
  · have hroom : start.components.length + ls.length ≤ Family.v6.componentCount := by
      simpa [start, Family.componentCount] using hlen
    obtain ⟨mark, hrun, _, hmark⟩ := run_terminated (h.terminated hne) .start hroom
    rw [hmark hne] at hrun
    rw [List.append_cons]
    exact run_concat hrun fun _ => .gap .colon rfl

end Scan

theorem Address.parse_eq_ok_iff_scan {f : Family} {text : String} {a : Address f} :
    Address.parse f text = .ok a ↔ ∃ s t ns, Scan.start.run f 0 text.toList = .ok s ∧ s.finish f = .ok t ∧
      t.expand f = .ok ns ∧ ofComponents f ns = a := by
  unfold Address.parse
  cases hrun : Scan.start.run f 0 text.toList with
  | error e => simp [bind, Except.bind]
  | ok s =>
    cases hfinish : s.finish f with
    | error e => simp [bind, Except.bind, hfinish]
    | ok t =>
      cases hexpand : t.expand f with
      | error e => simp [bind, Except.bind, hfinish, hexpand]
      | ok ns => simp [bind, Except.bind, pure, Except.pure, hfinish, hexpand]

theorem AddressText.exists_scan {f : Family} {cs : List Char} {ns : List Nat} (h : AddressText f cs ns) :
    ∃ s t, Scan.start.run f 0 cs = .ok s ∧ s.finish f = .ok t ∧ t.expand f = .ok ns := by
  cases h with
  | full h hlen =>
    have hne : ns ≠ [] := List.ne_nil_of_length_pos (hlen ▸ Nat.zero_lt_of_lt f.one_lt_componentCount)
    have hroom : Scan.start.components.length + ns.length ≤ f.componentCount := by simp [Scan.start, hlen]
    obtain ⟨t, hrun, hfinish⟩ := Scan.run_joined h hne .start hroom
    exact ⟨t, _, hrun, hfinish, Scan.expand_ungapped_eq_ok_iff.2 ⟨hlen.ge, rfl⟩⟩
  | @gapped left right ls rs hleft hright hlen =>
    obtain ⟨later, hlater⟩ := Scan.run_append_of_ok (Scan.run_gap hleft (by omega)) right
    rw [List.append_assoc] at hlater
    rcases eq_or_ne rs [] with rfl | hne
    · -- The text ends at the gap, so there is no last component to close.
      rw [hright.eq_nil] at hlater ⊢
      have hfinish : Scan.finish .v6 ⟨ls, some ls.length, .gap⟩ = .ok ⟨ls ++ [], some ls.length, .gap⟩ := by
        rw [List.append_nil]
        rfl
      exact ⟨_, _, hlater, hfinish, Scan.expand_gapped ls [] _⟩
    · have hroom : (⟨ls, some ls.length, .gap⟩ : Scan).components.length + rs.length ≤ Family.v6.componentCount := hlen
      obtain ⟨t, hrun, hfinish⟩ := Scan.run_joined hright hne .gap hroom
      exact ⟨t, _, hlater.trans hrun, hfinish, Scan.expand_gapped ls rs _⟩

/-- A text is accepted exactly if the grammar derives it, and then the address has the components that it spells. -/
theorem Address.parse_eq_ok_iff {f : Family} {text : String} {a : Address f} :
    Address.parse f text = .ok a ↔ AddressText f text.toList a.components := by
  rw [parse_eq_ok_iff_scan]
  constructor
  · rintro ⟨s, t, ns, hrun, hfinish, hexpand, rfl⟩
    have htext := (Scan.reads_of_run hrun).addressText (Scan.length_components_le_of_run hrun) hfinish hexpand
    rwa [components_ofComponents htext.length_eq htext.lt_of_mem]
  · intro h
    obtain ⟨s, t, hrun, hfinish, hexpand⟩ := h.exists_scan
    exact ⟨s, t, _, hrun, hfinish, hexpand, ofComponents_components a⟩

def HexGroup (group : String) (n : Nat) : Prop :=
  1 ≤ group.length ∧ group.length ≤ 4 ∧ Numeral.Spells 16 group.toList n

/-- Eight groups between colons, or no more than eight around two colons that stand for the zeros that are missing. -/
def SpellsGroups (text : String) (ns : List Nat) : Prop :=
  (∃ groups, List.Forall₂ HexGroup groups ns ∧ groups.length = 8 ∧ text = ":".intercalate groups) ∨
    ∃ left right ls rs, List.Forall₂ HexGroup left ls ∧ List.Forall₂ HexGroup right rs ∧
      left.length + right.length ≤ 8 ∧ text = ":".intercalate left ++ "::" ++ ":".intercalate right ∧
      ns = ls ++ List.replicate (8 - left.length - right.length) 0 ++ rs

theorem joined_v6_iff {text : String} {ns : List Nat} : Joined .v6 text.toList ns ↔
    ∃ groups, List.Forall₂ HexGroup groups ns ∧ text = ":".intercalate groups := by
  simp only [joined_iff, component_v6_iff, String.length_toList]
  rfl

theorem addressText_v6_iff {text : String} {ns : List Nat} : AddressText .v6 text.toList ns ↔ SpellsGroups text ns := by
  constructor
  · intro h
    generalize hcs : text.toList = cs at h
    cases h with
    | full h hlen =>
      subst hcs
      obtain ⟨groups, hgroups, htext⟩ := joined_v6_iff.1 h
      exact .inl ⟨groups, hgroups, hgroups.length_eq.trans hlen, htext⟩
    | @gapped left right ls rs hleft hright hlen =>
      rw [← String.toList_ofList (l := left)] at hleft
      rw [← String.toList_ofList (l := right)] at hright
      obtain ⟨lefts, hlefts, hleft⟩ := joined_v6_iff.1 hleft
      obtain ⟨rights, hrights, hright⟩ := joined_v6_iff.1 hright
      refine .inr ⟨lefts, rights, ls, rs, hlefts, hrights, ?_, ?_, ?_⟩
      · rwa [hlefts.length_eq, hrights.length_eq]
      · rw [← hleft, ← hright, ← String.toList_inj, hcs]
        simp
      · rw [hlefts.length_eq, hrights.length_eq, Nat.sub_sub]
  · rintro (⟨groups, hgroups, hlen, rfl⟩ | ⟨left, right, ls, rs, hleft, hright, hlen, rfl, rfl⟩)
    · exact .full (joined_v6_iff.2 ⟨groups, hgroups, rfl⟩) (hgroups.length_eq.symm.trans hlen)
    · rw [hleft.length_eq, hright.length_eq] at hlen ⊢
      have htext := AddressText.gapped (joined_v6_iff.2 ⟨left, hleft, rfl⟩) (joined_v6_iff.2 ⟨right, hright, rfl⟩) hlen
      simpa [Nat.sub_sub] using htext

theorem Address.components_ofGroups (gs : Vector UInt16 8) : (ofGroups gs).components = gs.toList.map UInt16.toNat := by
  refine components_ofComponents (by simp [Family.componentCount]) ?_
  intro n hn
  obtain ⟨g, _, rfl⟩ := List.mem_map.1 hn
  exact g.toNat_lt

/-- The v6 texts that are accepted, with the groups that each stands for; every other text is refused. -/
theorem Address.parse_ofGroups_iff (text : String) :
    (∀ gs : Vector UInt16 8,
      Address.parse .v6 text = .ok (ofGroups gs) ↔ SpellsGroups text (gs.toList.map UInt16.toNat)) ∧
    ((∃ e, Address.parse .v6 text = .error e) ↔
      ∀ gs : Vector UInt16 8, ¬ SpellsGroups text (gs.toList.map UInt16.toNat)) := by
  have haccept (gs : Vector UInt16 8) :
      Address.parse .v6 text = .ok (ofGroups gs) ↔ SpellsGroups text (gs.toList.map UInt16.toNat) := by
    rw [parse_eq_ok_iff, components_ofGroups, addressText_v6_iff]
  refine ⟨haccept, ?_⟩
  simp only [← haccept]
  cases hparse : Address.parse .v6 text with
  | error e => simp
  | ok a => simpa using ⟨a.groups, (ofGroups_groups a).symm⟩

end Inet
