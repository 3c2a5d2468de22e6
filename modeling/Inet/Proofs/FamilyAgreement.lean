import Inet.Proofs.StoredText

/-!
Reading in either family and reading in one. A text that some family accepts tells that family before its first slash,
so detecting the family first loses nothing, and no text belongs to both families.
-/

namespace Inet

variable {α : Family → Type} {read : (f : Family) → String → Except ParseError (α f)} {text : String}

def TellsFamily (read : (f : Family) → String → Except ParseError (α f)) : Prop :=
  ∀ {f : Family} {text : String} {x : α f}, read f text = .ok x → Family.detect text = .ok f

theorem Address.tellsFamily : TellsFamily Address.parse := Address.detect_of_parse

theorem Block.tellsFamily : TellsFamily Block.parse := Block.detect_of_parse

theorem AnyFamily.parse_eq_ok_iff {x : AnyFamily α} : AnyFamily.parse read text = .ok x ↔
    Family.detect text = .ok x.family ∧ read x.family text = .ok x.content := by
  constructor
  · intro hparse
    unfold AnyFamily.parse at hparse
    cases hdetect : Family.detect text with
    | error e => simp [hdetect, bind, Except.bind] at hparse
    | ok f =>
      cases hread : read f text with
      | error e => simp [hdetect, hread, bind, Except.bind] at hparse
      | ok y =>
        simp only [hdetect, hread, bind, Except.bind, pure, Except.pure] at hparse
        injection hparse with hx
        rw [← hx]
        exact ⟨rfl, hread⟩
  · rintro ⟨hdetect, hread⟩
    exact parse_of_detect hdetect hread

namespace TellsFamily

theorem family_unique (h : TellsFamily read) {f g : Family} {x : α f} {y : α g} (hx : read f text = .ok x)
    (hy : read g text = .ok y) : f = g := by
  have hf : Family.detect text = .ok f := h hx
  have hg : Family.detect text = .ok g := h hy
  exact Except.ok.inj (hf.symm.trans hg)

theorem parse_iff_read (h : TellsFamily read) {x : AnyFamily α} :
    AnyFamily.parse read text = .ok x ↔ read x.family text = .ok x.content := by
  rw [AnyFamily.parse_eq_ok_iff]
  exact and_iff_right_of_imp h

end TellsFamily

structure FamilyAgreement (readAny : String → Except ParseError (AnyFamily α))
    (read : (f : Family) → String → Except ParseError (α f)) (text : String) : Prop where
  v4_iff : ∀ x : α .v4, readAny text = .ok ⟨.v4, x⟩ ↔ read .v4 text = .ok x
  v6_iff : ∀ x : α .v6, readAny text = .ok ⟨.v6, x⟩ ↔ read .v6 text = .ok x
  not_both : ¬ ((∃ x, read .v4 text = .ok x) ∧ ∃ y, read .v6 text = .ok y)
  detect_of_read : ∀ (f : Family) (x : α f), read f text = .ok x → Family.detect text = .ok f
  detect_of_readAny : ∀ x : AnyFamily α, readAny text = .ok x → Family.detect text = .ok x.family

theorem TellsFamily.agreement (h : TellsFamily read) (text : String) :
    FamilyAgreement (AnyFamily.parse read) read text where
  v4_iff _ := h.parse_iff_read
  v6_iff _ := h.parse_iff_read
  not_both := by
    rintro ⟨⟨x, hx⟩, y, hy⟩
    exact absurd (h.family_unique hx hy) nofun
  detect_of_read _ _ := h
  detect_of_readAny _ hx := (AnyFamily.parse_eq_ok_iff.1 hx).1

/-- Addresses and blocks of either family are read as their own family reads them, and no text has two families. -/
theorem AnyFamily.parse_familyAgreement (text : String) :
    FamilyAgreement IpAddress.parse Address.parse text ∧ FamilyAgreement IpBlock.parse Block.parse text :=
  ⟨Address.tellsFamily.agreement text, Block.tellsFamily.agreement text⟩

end Inet
