import Inet.Address.Lemmas
import Inet.Proofs.Spelling

/-!
The grammar of addresses. A text joins components by the separator of its family; in a v6 text two colons may stand
for the zeros that are missing. The grammar says nothing of how a text is scanned.
-/

namespace Inet

def Family.separator : Family → Char
  | .v4 => '.'
  | .v6 => ':'

theorem Family.radix_le (f : Family) : f.radix ≤ 16 := by
  cases f <;> decide

theorem Family.one_lt_componentCount (f : Family) : 1 < f.componentCount := by
  cases f <;> decide

structure Component (f : Family) (cs : List Char) (n : Nat) : Prop where
  spells : Numeral.Spells f.radix cs n
  nonempty : cs ≠ []
  length_le : cs.length ≤ f.maxDigits
  lt : n < f.componentBase

inductive Terminated (f : Family) : List Char → List Nat → Prop where
  | nil : Terminated f [] []
  | snoc {cs ds : List Char} {ns : List Nat} {n : Nat} :
    Terminated f cs ns → Component f ds n → Terminated f (cs ++ ds ++ [f.separator]) (ns ++ [n])

inductive Joined (f : Family) : List Char → List Nat → Prop where
  | nil : Joined f [] []
  | snoc {cs ds : List Char} {ns : List Nat} {n : Nat} :
    Terminated f cs ns → Component f ds n → Joined f (cs ++ ds) (ns ++ [n])

/-- The characters of an address that has the components `ns`. -/
inductive AddressText : Family → List Char → List Nat → Prop where
  | full {f : Family} {cs : List Char} {ns : List Nat} :
    Joined f cs ns → ns.length = f.componentCount → AddressText f cs ns
  | gapped {left right : List Char} {ls rs : List Nat} :
    Joined .v6 left ls → Joined .v6 right rs → ls.length + rs.length ≤ 8 →
      AddressText .v6 (left ++ ':' :: ':' :: right) (ls ++ List.replicate (8 - (ls.length + rs.length)) 0 ++ rs)

variable {f : Family} {cs : List Char} {ns : List Nat} {n : Nat}

theorem component_v6_iff : Component .v6 cs n ↔ 1 ≤ cs.length ∧ cs.length ≤ 4 ∧ Numeral.Spells 16 cs n := by
  constructor
  · rintro ⟨hspells, hne, hlen, _⟩
    exact ⟨List.length_pos_iff.2 hne, hlen, hspells⟩
  · rintro ⟨hpos, hlen, hspells⟩
    have hpow : 16 ^ cs.length ≤ 16 ^ 4 := Nat.pow_le_pow_right (by decide) hlen
    exact ⟨hspells, List.length_pos_iff.1 hpos, hlen, hspells.lt.trans_le hpow⟩

theorem Terminated.lt_of_mem (h : Terminated f cs ns) : ∀ n ∈ ns, n < f.componentBase := by
  induction h with
  | nil => exact fun n hn => absurd hn List.not_mem_nil
  | snoc _ hd ih =>
    intro n hn
    rcases List.mem_append.1 hn with hn | hn
    · exact ih n hn
    · exact List.mem_singleton.1 hn ▸ hd.lt

theorem Terminated.cut (h : Terminated f cs ns) (hne : ns ≠ []) :
    ∃ ds, Joined f ds ns ∧ cs = ds ++ [f.separator] := by
  cases h with
  | nil => exact absurd rfl hne
  | snoc h hd => exact ⟨_, .snoc h hd, rfl⟩

theorem Joined.eq_nil (h : Joined f cs []) : cs = [] := by
  generalize hns : ([] : List Nat) = ns at h
  cases h with
  | nil => rfl
  | snoc _ _ => simp at hns

theorem Joined.terminated (h : Joined f cs ns) (hne : ns ≠ []) : Terminated f (cs ++ [f.separator]) ns := by
  cases h with
  | nil => exact absurd rfl hne
  | snoc h hd => exact .snoc h hd

theorem Joined.lt_of_mem (h : Joined f cs ns) : ∀ n ∈ ns, n < f.componentBase := by
  cases h with
  | nil => exact fun n hn => absurd hn List.not_mem_nil
  | snoc h hd => exact (Terminated.snoc h hd).lt_of_mem

theorem AddressText.length_eq (h : AddressText f cs ns) : ns.length = f.componentCount := by
  cases h with
  | full _ hlen => exact hlen
  | gapped _ _ hlen =>
    simp only [List.length_append, List.length_replicate, Family.componentCount]
    omega

theorem AddressText.lt_of_mem (h : AddressText f cs ns) : ∀ n ∈ ns, n < f.componentBase := by
  cases h with
  | full hjoined _ => exact hjoined.lt_of_mem
  | gapped hleft hright _ =>
    intro n hn
    rcases List.mem_append.1 hn with hn | hn
    · rcases List.mem_append.1 hn with hn | hn
      · exact hleft.lt_of_mem n hn
      · rw [List.eq_of_mem_replicate hn]
        decide
    · exact hright.lt_of_mem n hn

def Family.Allows (f : Family) (c : Char) : Prop := (∃ d, Numeral.Writes f.radix c d) ∨ c = f.separator

theorem Family.not_allows {c : Char} (hdigit : Numeral.digit? c = none) (hsep : c ≠ f.separator) : ¬ f.Allows c := by
  rintro (⟨d, hd⟩ | hc)
  · exact Numeral.not_writes_of_digit? f.radix_le hdigit hd
  · exact hsep hc

theorem Component.allows (h : Component f cs n) : ∀ c ∈ cs, f.Allows c := fun _ hc => .inl (h.spells.writes_of_mem hc)

theorem Terminated.allows (h : Terminated f cs ns) : ∀ c ∈ cs, f.Allows c := by
  induction h with
  | nil => exact fun c hc => absurd hc List.not_mem_nil
  | snoc _ hd ih =>
    intro c hc
    rw [List.mem_append, List.mem_append, List.mem_singleton] at hc
    rcases hc with (hc | hc) | hc
    · exact ih c hc
    · exact hd.allows c hc
    · exact .inr hc

theorem Joined.allows (h : Joined f cs ns) : ∀ c ∈ cs, f.Allows c := by
  cases h with
  | nil => exact fun c hc => absurd hc List.not_mem_nil
  | snoc h hd => exact List.forall_mem_append.2 ⟨h.allows, hd.allows⟩

theorem AddressText.allows (h : AddressText f cs ns) : ∀ c ∈ cs, f.Allows c := by
  cases h with
  | full h _ => exact h.allows
  | gapped hleft hright _ =>
    have hcolon : Family.v6.Allows ':' := .inr rfl
    have hafter := List.forall_mem_cons.2 ⟨hcolon, List.forall_mem_cons.2 ⟨hcolon, hright.allows⟩⟩
    exact List.forall_mem_append.2 ⟨hleft.allows, hafter⟩

theorem AddressText.separator_mem (h : AddressText f cs ns) : f.separator ∈ cs := by
  cases h with
  | gapped _ _ _ => exact List.mem_append_right _ List.mem_cons_self
  | full h hlen =>
    have hcount := f.one_lt_componentCount
    rw [← hlen] at hcount
    cases h with
    | nil => cases hcount
    | @snoc cs ds ns n h _ =>
      -- There is more than one component, so some component stands before the last.
      have hne : ns ≠ [] := by
        rintro rfl
        simp at hcount
      obtain ⟨es, _, rfl⟩ := h.cut hne
      simp

theorem toList_intercalate_concat (sep : Char) (parts : List String) (part : String) :
    ((String.singleton sep).intercalate (parts ++ [part])).toList =
      parts.flatMap (fun p => p.toList ++ [sep]) ++ part.toList := by
  induction parts with
  | nil => simp
  | cons p ps ih =>
    rw [List.cons_append, String.intercalate_cons_of_ne_nil (by simp)]
    simp [ih]

theorem Terminated.exists_parts (h : Terminated f cs ns) :
    ∃ parts : List String, List.Forall₂ (fun p n => Component f p.toList n) parts ns ∧
      cs = parts.flatMap fun p => p.toList ++ [f.separator] := by
  induction h with
  | nil => exact ⟨[], .nil, rfl⟩
  | @snoc cs ds ns n _ hd ih =>
    obtain ⟨parts, hparts, rfl⟩ := ih
    have hlast : Component f (String.ofList ds).toList n := by rwa [String.toList_ofList]
    exact ⟨parts ++ [String.ofList ds], List.rel_append hparts (.cons hlast .nil), by simp⟩

theorem Terminated.cons (h : Terminated f cs ns) {ds : List Char} (hd : Component f ds n) :
    Terminated f (ds ++ f.separator :: cs) (n :: ns) := by
  induction h with
  | nil => simpa using Terminated.nil.snoc hd
  | snoc _ he ih => simpa using ih.snoc he

theorem Joined.cons (h : Joined f cs ns) (hne : ns ≠ []) {ds : List Char} (hd : Component f ds n) :
    Joined f (ds ++ f.separator :: cs) (n :: ns) := by
  cases h with
  | nil => exact absurd rfl hne
  | snoc h he => simpa using Joined.snoc (h.cons hd) he

theorem joined_iff {text : String} : Joined f text.toList ns ↔
    ∃ parts : List String, List.Forall₂ (fun p n => Component f p.toList n) parts ns ∧
      text = (String.singleton f.separator).intercalate parts := by
  constructor
  · intro h
    generalize hcs : text.toList = cs at h
    cases h with
    | nil => exact ⟨[], .nil, by simpa using hcs⟩
    | @snoc cs ds ns n h hd =>
      obtain ⟨parts, hparts, rfl⟩ := h.exists_parts
      have hlast : Component f (String.ofList ds).toList n := by rwa [String.toList_ofList]
      refine ⟨parts ++ [String.ofList ds], List.rel_append hparts (.cons hlast .nil), ?_⟩
      rw [← String.toList_inj, hcs, toList_intercalate_concat, String.toList_ofList]
  · rintro ⟨parts, hparts, rfl⟩
    induction hparts with
    | nil => exact .nil
    | @cons p n ps ns hp hps ih =>
      cases hps with
      | nil => simpa using Joined.snoc Terminated.nil hp
      | cons _ _ =>
        rw [String.intercalate_cons_cons]
        simpa using ih.cons (by simp) hp

end Inet
