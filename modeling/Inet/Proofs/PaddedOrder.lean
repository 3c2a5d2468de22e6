import Inet.Proofs.CanonicalText
import Inet.Proofs.NumericOrder

/-!
Padded text in the order of addresses. Padding gives every group the same four digits, so the texts of all addresses
have their colons in the same places and are as long as each other. Octet by octet they compare as the addresses do: the
octets of the digits rise with the digits, also from the last decimal digit to the first letter.
-/

namespace Inet

variable {gs ms ns : List Nat} {m n : Nat}

def textOctets (text : String) : List UInt8 := text.toUTF8.data.toList

structure FourDigits (cs : List Char) (n : Nat) : Prop where
  spells : Numeral.Spells 16 cs n
  length_eq : cs.length = 4
  small : ∀ c ∈ cs, c.isUpper = false

def PaddedGroups (text : String) (ns : List Nat) : Prop :=
  ∃ parts : List String, List.Forall₂ (fun part n => FourDigits part.toList n) parts ns ∧ text = ":".intercalate parts

theorem compare_append {α : Type} [Ord α] {xs ys : List α} (hlen : xs.length = ys.length) (zs ws : List α) :
    compare (xs ++ zs) (ys ++ ws) = (compare xs ys).then (compare zs ws) := by
  induction xs generalizing ys with
  | nil =>
    rw [List.eq_nil_of_length_eq_zero hlen.symm]
    simp
  | cons x xs ih =>
    cases ys with
    | nil => cases hlen
    | cons y ys =>
      rw [List.cons_append, List.cons_append, List.compare_cons_cons, List.compare_cons_cons, ih (Nat.succ.inj hlen),
        Ordering.then_assoc]

theorem octets_lt_iff (xs ys : List UInt8) : xs < ys ↔ compare xs ys = .lt := by
  induction xs generalizing ys with
  | nil => cases ys <;> simp
  | cons x xs ih =>
    cases ys with
    | nil => simp
    | cons y ys =>
      rw [List.cons_lt_cons_iff, List.compare_cons_cons, Ordering.then_eq_lt, ← ih,
        Std.LawfulEqOrd.compare_eq_iff_eq, Std.compare_eq_lt (a := x)]

theorem textOctets_append (s t : String) : textOctets (s ++ t) = textOctets s ++ textOctets t := by
  simp [textOctets]

theorem textOctets_eq_flatMap (text : String) : textOctets text = text.toList.flatMap String.utf8EncodeChar := by
  rw [textOctets, String.toUTF8, ← String.utf8Encode_toList, List.utf8Encode]
  simp

def digitOctet (d : Nat) : UInt8 := d.digitChar.val.toUInt8

theorem utf8EncodeChar_digitChar {d : Nat} (hd : d < 16) : String.utf8EncodeChar d.digitChar = [digitOctet d] := by
  apply String.utf8EncodeChar_eq_singleton
  interval_cases d <;> rfl

theorem compare_digitOctet {d e : Nat} (hd : d < 16) (he : e < 16) :
    compare (digitOctet d) (digitOctet e) = compare d e := by
  interval_cases d <;> interval_cases e <;> rfl

def digitOctets (count n : Nat) : List UInt8 := (Numeral.digits 16 count n).map digitOctet

theorem textOctets_paddedText (count n : Nat) : textOctets (Numeral.paddedText 16 count n) = digitOctets count n := by
  have hsmall : ∀ d ∈ Numeral.digits 16 count n, d < 16 := fun d hd => Numeral.lt_of_mem_digits (by decide) hd
  rw [textOctets_eq_flatMap, Numeral.paddedText, String.toList_ofList, List.flatMap_map, digitOctets,
    List.map_eq_flatMap]
  exact List.flatMap_congr fun d hd => utf8EncodeChar_digitChar (hsmall d hd)

theorem compare_digitOctets {count : Nat} (hm : m < 16 ^ count) (hn : n < 16 ^ count) :
    compare (digitOctets count m) (digitOctets count n) = compare m n := by
  have hsmall (k : Nat) : ∀ d ∈ Numeral.digits 16 count k, d < 16 := fun d hd => Numeral.lt_of_mem_digits (by decide) hd
  have hvalue := Numeral.compare_value (by simp) (hsmall m) (hsmall n)
  rw [Numeral.value_digits hm, Numeral.value_digits hn] at hvalue
  rw [hvalue]
  exact Numeral.compare_map fun d hd e he => compare_digitOctet (hsmall m d hd) (hsmall n e he)

theorem textOctets_joinPadded_singleton (n : Nat) : textOctets (joinPadded [n]) = digitOctets 4 n := by
  rw [joinPadded, List.map_singleton, String.intercalate_singleton, textOctets_paddedText]

theorem textOctets_joinPadded_cons (n : Nat) (hns : ns ≠ []) :
    textOctets (joinPadded (n :: ns)) = digitOctets 4 n ++ 58 :: textOctets (joinPadded ns) := by
  have hcolon : textOctets ":" = [58] := rfl
  rw [joinPadded, List.map_cons, String.intercalate_cons_of_ne_nil (by simpa using hns), textOctets_append,
    textOctets_append, textOctets_paddedText, hcolon, List.append_assoc]
  rfl

theorem compare_joinPadded (hlen : ms.length = ns.length) (hms : ∀ m ∈ ms, m < 65536) (hns : ∀ n ∈ ns, n < 65536) :
    compare (textOctets (joinPadded ms)) (textOctets (joinPadded ns)) = compare ms ns := by
  induction ms generalizing ns with
  | nil =>
    rw [List.eq_nil_of_length_eq_zero hlen.symm]
    rfl
  | cons m ms ih =>
    cases ns with
    | nil => cases hlen
    | cons n ns =>
      have hlen := Nat.succ.inj hlen
      rw [List.forall_mem_cons] at hms hns
      have hhead : compare (digitOctets 4 m) (digitOctets 4 n) = compare m n := compare_digitOctets hms.1 hns.1
      rw [List.compare_cons_cons]
      rcases eq_or_ne ms [] with rfl | hne
      · rw [List.eq_nil_of_length_eq_zero hlen.symm, textOctets_joinPadded_singleton, textOctets_joinPadded_singleton,
          hhead, List.compare_nil_nil, Ordering.then_eq]
      · have hne' : ns ≠ [] := by
          rintro rfl
          exact hne (List.eq_nil_of_length_eq_zero hlen)
        have hcolon : compare (58 : UInt8) 58 = .eq := rfl
        rw [textOctets_joinPadded_cons m hne, textOctets_joinPadded_cons n hne', compare_append (by simp [digitOctets]),
          List.compare_cons_cons, hhead, hcolon, Ordering.eq_then, ih hlen hms.2 hns.2]

theorem fourDigits_paddedText (hn : n < 65536) : FourDigits (Numeral.paddedText 16 4 n).toList n := by
  rw [Numeral.paddedText, String.toList_ofList]
  refine ⟨.digits (by decide) hn, by simp, ?_⟩
  intro c hc
  obtain ⟨d, hd, rfl⟩ := List.mem_map.1 hc
  exact Numeral.isUpper_digitChar (Numeral.lt_of_mem_digits (by decide) hd)

theorem paddedGroups_joinPadded (hns : ∀ n ∈ ns, n < 65536) : PaddedGroups (joinPadded ns) ns := by
  refine ⟨ns.map (Numeral.paddedText 16 4), ?_, rfl⟩
  rw [List.forall₂_map_left_iff, List.forall₂_same]
  exact fun n hn => fourDigits_paddedText (hns n hn)

theorem PaddedGroups.length_text {text : String} (h : PaddedGroups text ns) (hne : ns ≠ []) :
    text.length + 1 = 5 * ns.length := by
  obtain ⟨parts, hparts, rfl⟩ := h
  induction hparts with
  | nil => exact absurd rfl hne
  | @cons part n parts ns hpart hparts ih =>
    have hfour : part.length = 4 := by rw [← String.length_toList, hpart.length_eq]
    cases hparts with
    | nil => simp [hfour]
    | cons hpart' hparts' =>
      have hcolon : ":".length = 1 := rfl
      have hrest := ih (List.cons_ne_nil _ _)
      rw [String.intercalate_cons_cons, String.length_append, String.length_append, hcolon, hfour, List.length_cons]
      omega

namespace Rendering

theorem text_of_pad (a : Address .v6) (compress : Bool) : text ⟨a, compress, true⟩ = joinPadded a.groupValues := by
  rw [Address.groupValues_eq]
  rfl

/-- Every padded text has 39 characters, eight groups of four digits, and the texts come in the order of addresses. -/
theorem padded_text_order :
    (∀ (a : Address .v6) (compress : Bool), (text ⟨a, compress, true⟩).length = 39 ∧
      PaddedGroups (text ⟨a, compress, true⟩) a.groupValues) ∧
    ∀ (a b : Address .v6) (compress compress' : Bool),
      a < b ↔ textOctets (text ⟨a, compress, true⟩) < textOctets (text ⟨b, compress', true⟩) := by
  have hsmall (a : Address .v6) : ∀ n ∈ a.groupValues, n < 65536 := by
    intro n hn
    obtain ⟨g, _, rfl⟩ := List.mem_map.1 hn
    exact g.toNat_lt
  have hcount (a : Address .v6) : a.groupValues.length = 8 := by simp [Address.groupValues]
  constructor
  · intro a compress
    rw [text_of_pad]
    have hgroups := paddedGroups_joinPadded (hsmall a)
    have hlen := hgroups.length_text (List.ne_nil_of_length_eq_add_one (hcount a))
    rw [hcount] at hlen
    exact ⟨Nat.succ.inj hlen, hgroups⟩
  · intro a b compress compress'
    rw [text_of_pad, text_of_pad, octets_lt_iff, compare_joinPadded (by simp [hcount]) (hsmall a) (hsmall b),
      Address.groupValues_eq, Address.groupValues_eq, Address.compare_components]
    rfl

end Rendering

end Inet
