import Inet.Proofs.Recognition

/-!
Dotted quads. The v4 texts that are accepted are four decimal octets with a dot between neighbours. Zeros may stand in
front of an octet as long as it has no more than three digits, and its digits are decimal even then.
-/

namespace Inet

variable {text : String} {cs : List Char} {n : Nat}

def DecimalOctet (part : String) (n : Nat) : Prop :=
  1 ≤ part.length ∧ part.length ≤ 3 ∧ Numeral.Spells 10 part.toList n ∧ n ≤ 255

def DottedQuad (text : String) (a b c d : Nat) : Prop :=
  ∃ p q r s, DecimalOctet p a ∧ DecimalOctet q b ∧ DecimalOctet r c ∧ DecimalOctet s d ∧
    text = p ++ "." ++ q ++ "." ++ r ++ "." ++ s

theorem component_v4_iff :
    Component .v4 cs n ↔ 1 ≤ cs.length ∧ cs.length ≤ 3 ∧ Numeral.Spells 10 cs n ∧ n ≤ 255 := by
  constructor
  · rintro ⟨hspells, hne, hlen, hlt⟩
    exact ⟨List.length_pos_iff.2 hne, hlen, hspells, Nat.le_of_lt_succ hlt⟩
  · rintro ⟨hpos, hlen, hspells, hle⟩
    exact ⟨hspells, List.length_pos_iff.1 hpos, hlen, Nat.lt_succ_of_le hle⟩

theorem joined_v4_iff {ns : List Nat} : Joined .v4 text.toList ns ↔
    ∃ parts, List.Forall₂ DecimalOctet parts ns ∧ text = ".".intercalate parts := by
  simp only [joined_iff, component_v4_iff, String.length_toList]
  rfl

theorem joined_four_iff {a b c d : Nat} : Joined .v4 text.toList [a, b, c, d] ↔ DottedQuad text a b c d := by
  rw [joined_v4_iff]
  constructor
  · rintro ⟨parts, hparts, rfl⟩
    obtain ⟨p, ps, hp, hps, rfl⟩ := List.forall₂_cons_right_iff.1 hparts
    obtain ⟨q, qs, hq, hqs, rfl⟩ := List.forall₂_cons_right_iff.1 hps
    obtain ⟨r, rs, hr, hrs, rfl⟩ := List.forall₂_cons_right_iff.1 hqs
    obtain ⟨s, ss, hs, hss, rfl⟩ := List.forall₂_cons_right_iff.1 hrs
    rw [List.forall₂_nil_right_iff.1 hss]
    exact ⟨p, q, r, s, hp, hq, hr, hs, by simp [String.append_assoc]⟩
  · rintro ⟨p, q, r, s, hp, hq, hr, hs, rfl⟩
    have hparts : List.Forall₂ DecimalOctet [p, q, r, s] [a, b, c, d] := .cons hp (.cons hq (.cons hr (.cons hs .nil)))
    exact ⟨_, hparts, by simp [String.append_assoc]⟩

theorem addressText_four_iff {a b c d : Nat} :
    AddressText .v4 text.toList [a, b, c, d] ↔ DottedQuad text a b c d := by
  rw [← joined_four_iff]
  constructor
  · intro h
    cases h with
    | full h _ => exact h
  · intro h
    exact .full h rfl

namespace Address

theorem components_ofQuad (a b c d : UInt8) :
    (ofOctets (f := .v4) #v[a, b, c, d]).components = [a.toNat, b.toNat, c.toNat, d.toNat] := by
  have hsmall : ∀ n ∈ [a.toNat, b.toNat, c.toNat, d.toNat], n < 256 := by
    simp only [List.forall_mem_cons, List.not_mem_nil, IsEmpty.forall_iff, implies_true, and_true]
    exact ⟨a.toNat_lt, b.toNat_lt, c.toNat_lt, d.toNat_lt⟩
  exact components_ofComponents (f := .v4) rfl hsmall

theorem exists_quad (x : Address .v4) : ∃ a b c d, x = ofOctets #v[a, b, c, d] := by
  rw [← ofOctets_octets x]
  generalize x.octets = os
  match os with
  | ⟨⟨[a, b, c, d]⟩, _⟩ => exact ⟨a, b, c, d, rfl⟩

/-- The v4 texts that are accepted, with the octets that each stands for; every other text is refused. -/
theorem parse_dottedQuad_iff (text : String) :
    (∀ a b c d : UInt8, Address.parse .v4 text = .ok (ofOctets #v[a, b, c, d]) ↔
      DottedQuad text a.toNat b.toNat c.toNat d.toNat) ∧
    ((∃ e, Address.parse .v4 text = .error e) ↔
      ∀ a b c d : UInt8, ¬ DottedQuad text a.toNat b.toNat c.toNat d.toNat) := by
  have haccept (a b c d : UInt8) : Address.parse .v4 text = .ok (ofOctets #v[a, b, c, d]) ↔
      DottedQuad text a.toNat b.toNat c.toNat d.toNat := by
    rw [parse_eq_ok_iff, components_ofQuad, addressText_four_iff]
  refine ⟨haccept, ?_⟩
  simp only [← haccept]
  cases hparse : Address.parse .v4 text with
  | error e => simp
  | ok x =>
    obtain ⟨a, b, c, d, rfl⟩ := exists_quad x
    constructor
    · rintro ⟨e, he⟩
      cases he
    · intro h
      exact absurd rfl (h a b c d)

example : Address.parse .v4 "010.001.0.09" = .ok (ofOctets #v[10, 1, 0, 9]) := by decide +kernel

end Address

end Inet
