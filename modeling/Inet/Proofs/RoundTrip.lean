import Inet.Address.Text
import Inet.Proofs.Recognition
import Inet.Proofs.ZeroRun

/-!
Written addresses are read back. Every way to write an address gives a text of the grammar that spells the components
of the address, so reading it gives the address again, and no two addresses share a text.
-/

namespace Inet

variable {f : Family} {ns : List Nat} {n : Nat}

theorem component_text (hn : n < f.componentBase) : Component f (Numeral.text f.radix n).toList n := by
  have hradix : 1 < f.radix := by cases f <;> decide
  have hmax : 0 < f.maxDigits := by cases f <;> decide
  have hpow : f.componentBase ≤ f.radix ^ f.maxDigits := by cases f <;> decide
  rw [Numeral.text, String.toList_ofList]
  exact ⟨.toDigits hradix n, Nat.toDigits_ne_nil, (Nat.length_toDigits_le_iff hradix hmax).2 (by omega), hn⟩

theorem component_paddedText (hn : n < 65536) : Component .v6 (Numeral.paddedText 16 4 n).toList n := by
  rw [Numeral.paddedText, String.toList_ofList]
  refine ⟨.digits (by decide) hn, ?_, ?_, hn⟩
  · rw [← List.length_pos_iff]
    simp
  · simp [Family.maxDigits]

theorem joined_map {write : Nat → String} (hns : ∀ n ∈ ns, Component f (write n).toList n) :
    Joined f ((String.singleton f.separator).intercalate (ns.map write)).toList ns := by
  refine joined_iff.2 ⟨ns.map write, ?_, rfl⟩
  rwa [List.forall₂_map_left_iff, List.forall₂_same]

theorem joined_joinGroups (hns : ∀ n ∈ ns, n < 65536) : Joined .v6 (joinGroups ns).toList ns :=
  joined_map fun n hn => component_text (hns n hn)

theorem addressText_joinCompressed (hlen : ns.length = 8) (hns : ∀ n ∈ ns, n < 65536) :
    AddressText .v6 (joinCompressed ns).toList ns := by
  unfold joinCompressed
  dsimp only
  split_ifs with hrun
  · exact .full (joined_joinGroups hns) hlen
  · have hsplit := (longestZeros_longestZeroRun ns).zeros.split
    generalize longestZeroRun ns = run at hrun hsplit ⊢
    have hleft : Joined .v6 (joinGroups (ns.take run.start)).toList (ns.take run.start) :=
      joined_joinGroups fun n hn => hns n (List.mem_of_mem_take hn)
    have hright : Joined .v6 (joinGroups (ns.drop (run.start + run.length))).toList
        (ns.drop (run.start + run.length)) :=
      joined_joinGroups fun n hn => hns n (List.mem_of_mem_drop hn)
    have hcount := congrArg List.length hsplit
    simp only [List.length_append, List.length_replicate, hlen] at hcount
    -- What the reader puts into the gap is as many zeros as the run has left out.
    have hgap := AddressText.gapped hleft hright (by omega)
    rw [show 8 - _ = run.length by omega, hsplit] at hgap
    simpa using hgap

theorem Rendering.addressText (r : Rendering) : AddressText .v6 r.text.toList r.address.components := by
  have hsmall : ∀ n ∈ r.address.components, n < 65536 := fun n hn => Numeral.lt_of_mem_digits (by decide) hn
  have hlen : r.address.components.length = 8 := r.address.length_components
  unfold Rendering.text
  split_ifs
  · have hjoined := joined_map fun n hn => component_paddedText (hsmall n hn)
    exact .full hjoined hlen
  · exact addressText_joinCompressed hlen hsmall
  · exact .full (joined_joinGroups hsmall) hlen

namespace Address

theorem parse_rendering (r : Rendering) : Address.parse .v6 r.text = .ok r.address :=
  parse_eq_ok_iff.2 r.addressText

theorem parse_text : {f : Family} → (a : Address f) → Address.parse f a.text = .ok a
  | .v4, a => by
    have hsmall : ∀ n ∈ a.components, n < 256 := fun n hn => Numeral.lt_of_mem_digits (by decide) hn
    have hjoined : Joined .v4 a.text.toList a.components := joined_map fun n hn => component_text (hsmall n hn)
    exact parse_eq_ok_iff.2 (.full hjoined a.length_components)
  | .v6, a => parse_rendering ⟨a, true, false⟩

/-- Reading undoes every rendering, so no rendering gives two addresses one text. -/
theorem parse_text_rendering :
    (∀ (a : Address .v6) (compress pad : Bool), Address.parse .v6 (Rendering.text ⟨a, compress, pad⟩) = .ok a) ∧
    (∀ a : Address .v6, Address.parse .v6 a.text = .ok a) ∧
    ∀ compress pad : Bool, Function.Injective fun a : Address .v6 => Rendering.text ⟨a, compress, pad⟩ := by
  refine ⟨fun a compress pad => parse_rendering ⟨a, compress, pad⟩, parse_text, ?_⟩
  intro compress pad a b htext
  have ha := parse_rendering ⟨a, compress, pad⟩
  have hb := parse_rendering ⟨b, compress, pad⟩
  rw [show Rendering.text ⟨a, compress, pad⟩ = Rendering.text ⟨b, compress, pad⟩ from htext, hb] at ha
  exact (Except.ok.inj ha).symm

end Address

end Inet
