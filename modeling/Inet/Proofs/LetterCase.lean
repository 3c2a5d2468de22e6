import Inet.Proofs.FamilyChoice
import Inet.Proofs.DigitRuns

/-!
The case of letters. A reader sees a letter from a to f only as the digit that it is, and takes every other character as
it stands. So two texts that differ in nothing but the case of such letters are read alike, character by character: they
give the same value, or the same error at the same position.
-/

namespace Inet

variable {c d : Char} {cs ds : List Char} {text text' : String} {f : Family}

/-- One character, or one letter from a to f in either case. -/
def SameLetter (c d : Char) : Prop :=
  c = d ∨ ∃ l ∈ ['a', 'b', 'c', 'd', 'e', 'f'], (c = l ∨ c = l.toUpper) ∧ (d = l ∨ d = l.toUpper)

instance : Decidable (SameLetter c d) := @instDecidableOr _ _ _ (List.decidableBEx _ _)

def SameButCase (text text' : String) : Prop := List.Forall₂ SameLetter text.toList text'.toList

instance : Decidable (SameButCase text text') := inferInstanceAs (Decidable (List.Forall₂ _ _ _))

namespace SameLetter

theorem eq_or_digit (h : SameLetter c d) :
    c = d ∨ ∃ n, 10 ≤ n ∧ Numeral.digit? c = some n ∧ Numeral.digit? d = some n := by
  have hletter (l : Char) (hl : l ∈ ['a', 'b', 'c', 'd', 'e', 'f']) :
      ∃ n, 10 ≤ n ∧ Numeral.digit? l = some n ∧ Numeral.digit? l.toUpper = some n := by
    simp only [List.mem_cons, List.not_mem_nil, or_false] at hl
    rcases hl with rfl | rfl | rfl | rfl | rfl | rfl <;> exact ⟨_, by decide, rfl, rfl⟩
  rcases h with rfl | ⟨l, hl, hc, hd⟩
  · exact .inl rfl
  · obtain ⟨n, hn, hlower, hupper⟩ := hletter l hl
    refine .inr ⟨n, hn, ?_, ?_⟩
    · rcases hc with rfl | rfl <;> assumption
    · rcases hd with rfl | rfl <;> assumption

theorem symm (h : SameLetter c d) : SameLetter d c := by
  rcases h with rfl | ⟨l, hl, hc, hd⟩
  · exact .inl rfl
  · exact .inr ⟨l, hl, hd, hc⟩

theorem eq_of_digit? (h : SameLetter c d) (hc : Numeral.digit? c = none) : c = d := by
  rcases h.eq_or_digit with rfl | ⟨n, _, hdigit, _⟩
  · rfl
  · simp [hc] at hdigit

theorem eq_iff (h : SameLetter c d) {sep : Char} (hsep : Numeral.digit? sep = none) : c = sep ↔ d = sep := by
  constructor
  · rintro rfl
    exact (h.eq_of_digit? hsep).symm
  · rintro rfl
    exact (h.symm.eq_of_digit? hsep).symm

theorem utf8Size_eq (h : SameLetter c d) : c.utf8Size = d.utf8Size := by
  rcases h.eq_or_digit with rfl | ⟨n, _, hc, hd⟩
  · rfl
  · have hc' : isHexDigit c := isHexDigit_iff_digit?.2 ⟨n, hc⟩
    have hd' : isHexDigit d := isHexDigit_iff_digit?.2 ⟨n, hd⟩
    rw [utf8Size_of_isHexDigit hc', utf8Size_of_isHexDigit hd']

theorem eq_or_not_isDigit (h : SameLetter c d) : c = d ∨ (¬ c.isDigit ∧ ¬ d.isDigit) := by
  rcases h.eq_or_digit with rfl | ⟨n, hn, hc, hd⟩
  · exact .inl rfl
  · rw [isDigit_iff_of_digit? hc, isDigit_iff_of_digit? hd]
    exact .inr ⟨Nat.not_lt.2 hn, Nat.not_lt.2 hn⟩

theorem step_eq (h : SameLetter c d) (s : Scan) (position : Nat) : s.step f position c = s.step f position d := by
  rcases h.eq_or_digit with rfl | ⟨n, _, hc, hd⟩
  · rfl
  · rw [Scan.step, Scan.step, hc, hd]

end SameLetter

theorem eq_nil_iff_sameLetter (h : List.Forall₂ SameLetter cs ds) : cs = [] ↔ ds = [] := by
  cases h <;> simp

theorem mem_sameLetter (h : List.Forall₂ SameLetter cs ds) (hc : Numeral.digit? c = none) : c ∈ cs ↔ c ∈ ds := by
  induction h with
  | nil => rfl
  | cons hd _ ih => rw [List.mem_cons, List.mem_cons, ih, eq_comm, hd.eq_iff hc, eq_comm]

theorem Scan.run_sameLetter (h : List.Forall₂ SameLetter cs ds) (s : Scan) (position : Nat) :
    s.run f position cs = s.run f position ds := by
  induction h generalizing s position with
  | nil => rfl
  | cons hc _ ih =>
    rw [run, run, hc.step_eq, hc.utf8Size_eq]
    simp only [ih]

theorem Numeral.capped?_sameLetter (h : List.Forall₂ SameLetter cs ds) (cap : Nat) :
    capped? cap cs = capped? cap ds := by
  have hfold (n : Nat) :
      cs.foldlM (fun n c => if c.isDigit then some (min cap (n * 10 + (c.toNat - '0'.toNat))) else none) n =
        ds.foldlM (fun n c => if c.isDigit then some (min cap (n * 10 + (c.toNat - '0'.toNat))) else none) n := by
    induction h generalizing n with
    | nil => rfl
    | cons hc _ ih =>
      rw [List.foldlM_cons, List.foldlM_cons]
      rcases hc.eq_or_not_isDigit with rfl | ⟨hc, hd⟩
      · simp only [ih]
      · rw [if_neg hc, if_neg hd]
        rfl
  have hempty : cs.isEmpty = ds.isEmpty := by
    rw [Bool.eq_iff_iff, List.isEmpty_iff, List.isEmpty_iff, eq_nil_iff_sameLetter h]
  rw [capped?, capped?, hempty, hfold]

theorem forall₂_takeWhile {R : Char → Char → Prop} {p : Char → Bool} (h : List.Forall₂ R cs ds)
    (hp : ∀ {c d}, R c d → p c = p d) : List.Forall₂ R (cs.takeWhile p) (ds.takeWhile p) := by
  induction h with
  | nil => exact .nil
  | cons hc _ ih =>
    rw [List.takeWhile_cons, List.takeWhile_cons, hp hc]
    split
    · exact .cons hc ih
    · exact .nil

theorem beforeSlash_sameLetter (h : SameButCase text text') :
    List.Forall₂ SameLetter (beforeSlash text) (beforeSlash text') := by
  refine forall₂_takeWhile h fun {c d} hc => ?_
  rw [Bool.eq_iff_iff, bne_iff_ne, bne_iff_ne, ne_eq, ne_eq, hc.eq_iff (by decide)]

theorem splitAtSlash_sameButCase (h : SameButCase text text') :
    SameButCase (splitAtSlash text).1 (splitAtSlash text').1 ∧
      Option.Rel SameButCase (splitAtSlash text).2 (splitAtSlash text').2 := by
  have hbefore := beforeSlash_sameLetter h
  have hrest : List.Forall₂ SameLetter (text.toList.drop (beforeSlash text).length)
      (text'.toList.drop (beforeSlash text').length) := by
    rw [← hbefore.length_eq]
    exact List.forall₂_drop _ h
  have hcut (t : String) : splitAtSlash t = (String.ofList (beforeSlash t),
      (t.toList.drop (beforeSlash t).length).tail?.map String.ofList) := by
    unfold splitAtSlash beforeSlash
    dsimp only
    split <;> simp [*]
  rw [hcut, hcut]
  constructor
  · simpa [SameButCase] using hbefore
  · dsimp only
    generalize text.toList.drop _ = rest, text'.toList.drop _ = rest' at hrest
    cases hrest with
    | nil => exact .none
    | cons _ htail => exact .some (by simpa [SameButCase] using htail)

theorem Family.detect_sameButCase (h : SameButCase text text') : detect text = detect text' := by
  have hbefore := beforeSlash_sameLetter h
  rw [detect_eq_told, detect_eq_told]
  simp only [told, mem_sameLetter hbefore (by decide : Numeral.digit? ':' = none),
    mem_sameLetter hbefore (by decide : Numeral.digit? '.' = none), eq_nil_iff_sameLetter hbefore]

theorem Address.parse_sameButCase (h : SameButCase text text') : Address.parse f text = Address.parse f text' := by
  rw [Address.parse, Address.parse, Scan.run_sameLetter h]

namespace Block

theorem parseMask_sameButCase (h : SameButCase text text') : parseMask f text = parseMask f text' := by
  have hempty : text.isEmpty = text'.isEmpty := by
    rw [Bool.eq_iff_iff, String.isEmpty_iff, String.isEmpty_iff, ← String.toList_eq_nil_iff, ← String.toList_eq_nil_iff,
      eq_nil_iff_sameLetter h]
  rw [parseMask, parseMask, hempty, Numeral.capped?_sameLetter h, Address.parse_sameButCase h]

theorem parse_sameButCase (h : SameButCase text text') : Block.parse f text = Block.parse f text' := by
  obtain ⟨hbefore, hafter⟩ := splitAtSlash_sameButCase h
  unfold Block.parse
  generalize splitAtSlash text = cut at hbefore hafter ⊢
  generalize splitAtSlash text' = cut' at hbefore hafter ⊢
  obtain ⟨before, after?⟩ := cut
  obtain ⟨before', after?'⟩ := cut'
  dsimp only at hbefore hafter ⊢
  rw [Address.parse_sameButCase hbefore]
  cases hafter with
  | none => rfl
  | some hafter => simp only [parseMask_sameButCase hafter]

end Block

theorem AnyFamily.parse_sameButCase {α : Family → Type} {read : (f : Family) → String → Except ParseError (α f)}
    (h : SameButCase text text') (hread : ∀ f, read f text = read f text') :
    AnyFamily.parse read text = AnyFamily.parse read text' := by
  simp only [AnyFamily.parse, Family.detect_sameButCase h, hread]

namespace Kind

/-- The case of letters from a to f never matters: texts that differ in nothing else are read alike by every kind, with
one value or one error, and tell one family. -/
theorem reads_sameButCase (h : SameButCase text text') :
    (∀ k : Kind, k.parse text = k.parse text') ∧ Family.detect text = Family.detect text' := by
  refine ⟨fun k => ?_, Family.detect_sameButCase h⟩
  cases k with
  | address f => exact Address.parse_sameButCase h
  | block f => exact Block.parse_sameButCase h
  | anyAddress => exact AnyFamily.parse_sameButCase h fun f => Address.parse_sameButCase h
  | anyBlock => exact AnyFamily.parse_sameButCase h fun f => Block.parse_sameButCase h

theorem parse_mixed_case :
    SameButCase "Fe80::aB/FFff:F::" "fE80::Ab/ffFF:f::" ∧
    (∀ k : Kind, k.parse "Fe80::aB/FFff:F::" = k.parse "fE80::Ab/ffFF:f::") ∧
    Family.detect "Fe80::aB/FFff:F::" = Family.detect "fE80::Ab/ffFF:f::" := by
  have h : SameButCase "Fe80::aB/FFff:F::" "fE80::Ab/ffFF:f::" := by decide
  exact ⟨h, reads_sameButCase h⟩

end Kind

end Inet
