import Inet.Proofs.DigitRuns
import Inet.Proofs.RoundTrip
import Inet.Proofs.ShortestNumeral

/-!
The canonical text of a v6 address. Its groups are shortest numerals in small letters, with two colons in place of the
longest run of two or more zero groups. Colons stand side by side nowhere else, so they show which run is left out.
-/

namespace Inet

variable {cs ds left right : List Char} {sep : Char} {f : Family} {gs ns : List Nat} {n : Nat} {text : String}

def PlainGroups (text : String) (ns : List Nat) : Prop :=
  ∃ parts : List String,
    List.Forall₂ (fun part n => Numeral.Shortest 16 part.toList n) parts ns ∧ text = ":".intercalate parts

/-- The text of groups when a run of two or more zeros is left out, if there is one. -/
inductive CanonicalText (gs : List Nat) : String → Prop where
  | full {text : String} : (∀ start, ¬ ZerosAt gs start 2) → PlainGroups text gs → CanonicalText gs text
  | abbreviated {start length : Nat} {left right : String} : LongestZeros gs start length → 2 ≤ length →
      PlainGroups left (gs.take start) → PlainGroups right (gs.drop (start + length)) →
      CanonicalText gs (left ++ "::" ++ right)

theorem shortest_toList_iff {part : String} : Numeral.Shortest 16 part.toList n ↔ part = Numeral.text 16 n := by
  rw [Numeral.shortest_iff (by decide) (by decide), Numeral.text, ← String.toList_inj, String.toList_ofList]

theorem plainGroups_iff : PlainGroups text ns ↔ text = joinGroups ns := by
  have hparts (parts : List String) :
      List.Forall₂ (fun part n => Numeral.Shortest 16 part.toList n) parts ns ↔ parts = ns.map (Numeral.text 16) := by
    simp only [shortest_toList_iff]
    rw [← List.forall₂_map_right_iff (R := Eq), List.forall₂_eq_eq_eq]
  unfold PlainGroups joinGroups
  simp only [hparts, exists_eq_left]

theorem two_le_longestZeroRun_iff : 2 ≤ (longestZeroRun gs).length ↔ ∃ start, ZerosAt gs start 2 := by
  constructor
  · exact fun h => ⟨_, (longestZeros_longestZeroRun gs).zeros.mono h⟩
  · rintro ⟨start, hzeros⟩
    exact (longestZeros_longestZeroRun gs).longest start 2 hzeros

theorem canonicalText_iff : CanonicalText gs text ↔ text = joinCompressed gs := by
  unfold joinCompressed
  dsimp only
  constructor
  · rintro (⟨hnone, htext⟩ | ⟨hrun, hlen, hleft, hright⟩)
    · rw [if_pos, plainGroups_iff.1 htext]
      rw [← not_le, two_le_longestZeroRun_iff]
      exact not_exists.2 hnone
    · rw [longestZeros_iff.1 hrun, if_neg (not_lt.2 hlen), plainGroups_iff.1 hleft, plainGroups_iff.1 hright]
  · rintro rfl
    split_ifs with hlen
    · rw [← not_le, two_le_longestZeroRun_iff, not_exists] at hlen
      exact .full hlen (plainGroups_iff.2 rfl)
    · exact .abbreviated (longestZeros_iff.2 rfl) (not_lt.1 hlen) (plainGroups_iff.2 rfl) (plainGroups_iff.2 rfl)

/-- The separator stands neither beside another nor at an end. -/
structure Apart (sep : Char) (cs : List Char) : Prop where
  no_pair : ¬ [sep, sep] <:+: cs
  no_first : cs.head? ≠ some sep
  no_last : cs.getLast? ≠ some sep

theorem pair_infix_append_iff (hds : sep ∉ ds) : [sep, sep] <:+: cs ++ ds ↔ [sep, sep] <:+: cs := by
  induction ds using List.reverseRecOn with
  | nil => rw [List.append_nil]
  | append_singleton ds d ih =>
    rw [List.mem_append, List.mem_singleton, not_or] at hds
    rw [← List.append_assoc, infix_concat_pair_iff, ih hds.1, or_iff_right fun h => hds.2 h.2]

theorem Component.separator_notMem (h : Component f cs n) : f.separator ∉ cs :=
  h.spells.notMem_of_digit? f.radix_le (Scan.digit?_separator f)

namespace Apart

theorem append (hpair : ¬ [sep, sep] <:+: cs) (hfirst : cs.head? ≠ some sep) (hne : ds ≠ []) (hds : sep ∉ ds) :
    Apart sep (cs ++ ds) := by
  refine ⟨?_, ?_, ?_⟩
  · rwa [pair_infix_append_iff hds]
  · rcases eq_or_ne cs [] with rfl | hcs
    · exact fun hhead => hds (List.mem_of_mem_head? hhead)
    · rwa [List.head?_append_of_ne_nil _ hcs]
  · rw [List.getLast?_append_of_ne_nil _ hne]
    exact fun hlast => hds (List.mem_of_mem_getLast? hlast)

theorem no_pair_concat (h : Apart sep cs) : ¬ [sep, sep] <:+: cs ++ [sep] := by
  rw [infix_concat_pair_iff, not_or]
  refine ⟨?_, h.no_pair⟩
  rintro ⟨⟨ds, rfl⟩, -⟩
  exact h.no_last List.getLast?_concat

theorem eq_nil_of_front {between rest : List Char} (h : Apart sep cs)
    (hcs : sep :: sep :: cs = between ++ sep :: sep :: rest) : between = [] := by
  match between, hcs with
  | [], _ => rfl
  | [_], hcs =>
    obtain ⟨-, rfl⟩ := List.cons_eq_cons.1 (List.cons_eq_cons.1 hcs).2
    exact absurd rfl h.no_first
  | _ :: _ :: between, hcs =>
    have hpair : cs = between ++ [sep, sep] ++ rest := by
      simpa using (List.cons_eq_cons.1 (List.cons_eq_cons.1 hcs).2).2
    exact absurd ⟨between, rest, hpair.symm⟩ h.no_pair

theorem unique {left' right' : List Char} (hleft : Apart sep left) (hright : Apart sep right)
    (h : left ++ sep :: sep :: right = left' ++ sep :: sep :: right') : left = left' ∧ right = right' := by
  suffices hsame : left = left' by
    subst hsame
    simpa using h
  rcases List.append_eq_append_iff.1 h with ⟨between, hlong, hbetween⟩ | ⟨between, hlong, hbetween⟩
  · rw [hlong, hright.eq_nil_of_front hbetween, List.append_nil]
  · -- What `left` has beyond `left'` begins with a separator, and a second one would make a pair.
    match between, hbetween with
    | [], _ => rw [hlong, List.append_nil]
    | [_], hbetween =>
      obtain ⟨rfl, -⟩ := List.cons_eq_cons.1 hbetween
      exact absurd (hlong ▸ List.getLast?_concat) hleft.no_last
    | _ :: _ :: between, hbetween =>
      obtain ⟨rfl, htail⟩ := List.cons_eq_cons.1 hbetween
      obtain ⟨rfl, -⟩ := List.cons_eq_cons.1 htail
      exact absurd ⟨left', between, by simp [hlong]⟩ hleft.no_pair

end Apart

theorem Terminated.separators_apart (h : Terminated f cs ns) :
    ¬ [f.separator, f.separator] <:+: cs ∧ cs.head? ≠ some f.separator := by
  induction h with
  | nil => simp
  | snoc _ hcomp ih =>
    have hapart := Apart.append ih.1 ih.2 hcomp.nonempty hcomp.separator_notMem
    refine ⟨hapart.no_pair_concat, ?_⟩
    rw [List.head?_append_of_ne_nil _ (List.append_ne_nil_of_right_ne_nil _ hcomp.nonempty)]
    exact hapart.no_first

theorem Joined.apart (h : Joined f cs ns) : Apart f.separator cs := by
  cases h with
  | nil => exact ⟨by simp, by simp, by simp⟩
  | snoc hcs hcomp => exact .append hcs.separators_apart.1 hcs.separators_apart.2 hcomp.nonempty hcomp.separator_notMem

theorem PlainGroups.apart (h : PlainGroups text ns) (hns : ∀ n ∈ ns, n < 65536) : Apart ':' text.toList := by
  rw [plainGroups_iff.1 h]
  exact (joined_joinGroups hns).apart

theorem CanonicalText.colons (h : CanonicalText gs text) (hgs : ∀ n ∈ gs, n < 65536) :
    ((∃ start, ZerosAt gs start 2) ∧ ∃! cut : String × String, text = cut.1 ++ "::" ++ cut.2) ∨
    ((∀ start, ¬ ZerosAt gs start 2) ∧ ∀ cut : String × String, text ≠ cut.1 ++ "::" ++ cut.2) := by
  cases h with
  | full hnone htext =>
    refine .inr ⟨hnone, ?_⟩
    rintro ⟨before, after⟩ rfl
    exact (htext.apart hgs).no_pair ⟨before.toList, after.toList, by simp⟩
  | @abbreviated start length left right hrun hlen hleft hright =>
    refine .inl ⟨⟨start, hrun.zeros.mono hlen⟩, ⟨left, right⟩, rfl, ?_⟩
    rintro ⟨before, after⟩ hcut
    have hcut : left.toList ++ ':' :: ':' :: right.toList = before.toList ++ ':' :: ':' :: after.toList := by
      simpa using congrArg String.toList hcut
    have hleft := hleft.apart fun n hn => hgs n (List.mem_of_mem_take hn)
    have hright := hright.apart fun n hn => hgs n (List.mem_of_mem_drop hn)
    obtain ⟨hbefore, hafter⟩ := hleft.unique hright hcut
    rw [String.toList_inj] at hbefore hafter
    rw [hbefore, hafter]

namespace Address

def groupValues (a : Address .v6) : List Nat := a.groups.toList.map UInt16.toNat

theorem groupValues_eq (a : Address .v6) : a.groupValues = a.components := map_toNat_groups a

theorem text_eq_iff (a : Address .v6) (text : String) : a.text = text ↔ CanonicalText a.groupValues text := by
  have htext : a.text = joinCompressed a.components := by simp [Address.text, Rendering.text]
  rw [htext, canonicalText_iff, groupValues_eq, eq_comm]

/-- The only text that is canonical for the groups of an address is the one it is written as. -/
theorem text_canonical (a : Address .v6) :
    a.text = Rendering.text ⟨a, true, false⟩ ∧
    (∀ text : String, a.text = text ↔ CanonicalText a.groupValues text) ∧
    (((∃ start, ZerosAt a.groupValues start 2) ∧ ∃! cut : String × String, a.text = cut.1 ++ "::" ++ cut.2) ∨
      ((∀ start, ¬ ZerosAt a.groupValues start 2) ∧ ∀ cut : String × String, a.text ≠ cut.1 ++ "::" ++ cut.2)) ∧
    (a.text = "::" ↔ a.groups = Vector.replicate 8 0) := by
  refine ⟨rfl, a.text_eq_iff, ?_, ?_⟩
  · have hgs : ∀ n ∈ a.groupValues, n < 65536 := by
      intro n hn
      obtain ⟨g, -, rfl⟩ := List.mem_map.1 hn
      exact g.toNat_lt
    exact ((a.text_eq_iff a.text).1 rfl).colons hgs
  · have hzero : (ofGroups (Vector.replicate 8 0)).text = "::" := by decide
    constructor
    · intro htext
      have hparse := parse_text a
      rw [htext, ← hzero, parse_text] at hparse
      rw [← Except.ok.inj hparse, groups_ofGroups]
    · intro hgroups
      rw [← ofGroups_groups a, hgroups, hzero]

end Address

end Inet
