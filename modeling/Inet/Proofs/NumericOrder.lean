import Inet.Address.Lemmas
import Inet.Kind

/-!
One order on every layer. Lists of digits compare as the numbers they write, so addresses compare as their octets do.
Blocks compare by value and then by mask, and things of either family by family first. All these orders are total, and
only equal things hold the same place in them.
-/

namespace Inet

namespace Numeral

variable {base : Nat}

theorem append_digit_lt {m n d : Nat} (hlt : m < n) (hd : d < base) (e : Nat) : m * base + d < n * base + e := by
  have hle : (m + 1) * base ≤ n * base := Nat.mul_le_mul_right base hlt
  rw [Nat.succ_mul] at hle
  omega

theorem compare_append_digit {m n d e : Nat} (hd : d < base) (he : e < base) :
    compare (m * base + d) (n * base + e) = (compare m n).then (compare d e) := by
  rcases Nat.lt_trichotomy m n with hlt | rfl | hlt
  · rw [Nat.compare_eq_lt.2 hlt]
    exact Nat.compare_eq_lt.2 (append_digit_lt hlt hd e)
  · rw [Nat.compare_eq_eq.2 rfl, Ordering.eq_then]
    simp only [Nat.compare_eq_ite_lt, Nat.add_lt_add_iff_left]
  · rw [Nat.compare_eq_gt.2 hlt]
    exact Nat.compare_eq_gt.2 (append_digit_lt hlt he d)

theorem compare_value {ds es : List Nat} (hlen : ds.length = es.length) (hds : ∀ d ∈ ds, d < base)
    (hes : ∀ e ∈ es, e < base) : compare (value base ds) (value base es) = compare ds es := by
  -- The digits read so far decide, unless they are the same.
  have key : ∀ m n, compare (ds.foldl (fun n d => n * base + d) m) (es.foldl (fun n d => n * base + d) n) =
      (compare m n).then (compare ds es) := by
    induction ds generalizing es with
    | nil =>
      intro m n
      rw [List.eq_nil_of_length_eq_zero hlen.symm]
      simp
    | cons d ds ih =>
      intro m n
      cases es with
      | nil => cases hlen
      | cons e es =>
        rw [List.forall_mem_cons] at hds hes
        rw [List.foldl_cons, List.foldl_cons, List.compare_cons_cons, ← Ordering.then_assoc,
          ← compare_append_digit hds.1 hes.1]
        exact ih (Nat.succ.inj hlen) hds.2 hes.2 _ _
  exact key 0 0

theorem compare_octet_toNat (x y : UInt8) : compare x.toNat y.toNat = compare x y := by
  simp [compare, compareOfLessAndEq, UInt8.lt_iff_toNat_lt, UInt8.toNat_inj]

theorem compare_map {α β : Type} [Ord α] [Ord β] {g : α → β} {xs ys : List α}
    (hg : ∀ x ∈ xs, ∀ y ∈ ys, compare (g x) (g y) = compare x y) : compare (xs.map g) (ys.map g) = compare xs ys := by
  induction xs generalizing ys with
  | nil => cases ys <;> rfl
  | cons x xs ih =>
    cases ys with
    | nil => rfl
    | cons y ys =>
      have htail := ih fun x hx y hy => hg x (List.mem_cons_of_mem _ hx) y (List.mem_cons_of_mem _ hy)
      rw [List.map_cons, List.map_cons, List.compare_cons_cons, List.compare_cons_cons, htail,
        hg x List.mem_cons_self y List.mem_cons_self]

theorem compare_octets_toNat (xs ys : List UInt8) :
    compare (xs.map UInt8.toNat) (ys.map UInt8.toNat) = compare xs ys :=
  compare_map fun x _ y _ => compare_octet_toNat x y

end Numeral

namespace Address

variable {f : Family}

theorem compare_octets (a b : Address f) : compare a.octets b.octets = compare a b := by
  have hvalue := Numeral.compare_value (by simp) (lt_of_mem_octets a.octets.toList) (lt_of_mem_octets b.octets.toList)
  rw [value_octets, value_octets, Numeral.compare_octets_toNat] at hvalue
  exact Vector.compareLex_eq_compareLex_toList.trans hvalue.symm

theorem compare_components (a b : Address f) : compare a.components b.components = compare a b := by
  have hpos : 0 < f.componentBase := by cases f <;> decide
  have hsmall (c : Address f) : ∀ n ∈ c.components, n < f.componentBase := fun n hn => Numeral.lt_of_mem_digits hpos hn
  have hvalue (c : Address f) : Numeral.value f.componentBase c.components = c.toNat :=
    Numeral.value_digits (f.components_pow ▸ c.toNat_lt)
  rw [← Numeral.compare_value (by simp) (hsmall a) (hsmall b), hvalue, hvalue]
  rfl

instance : Std.TransOrd (Address f) := inferInstanceAs (Std.TransCmp (compareOn Address.toNat))

instance : Std.LawfulEqOrd (Address f) where
  compare_self := Nat.compare_eq_eq.2 rfl
  eq_of_compare h := toNat_inj.1 (Nat.compare_eq_eq.1 h)

end Address

namespace Block

variable {f : Family}

instance : Std.TransOrd (Block f) :=
  inferInstanceAs (Std.TransCmp (compareLex (compareOn Block.value) (compareOn Block.mask)))

instance : Std.LawfulEqOrd (Block f) where
  compare_self := Ordering.then_eq_eq.2 ⟨Std.ReflCmp.compare_self, Std.ReflCmp.compare_self⟩
  eq_of_compare h := by
    obtain ⟨hvalue, hmask⟩ := Ordering.then_eq_eq.1 h
    exact Block.ext (Std.LawfulEqOrd.eq_of_compare hvalue) (Std.LawfulEqOrd.eq_of_compare hmask)

end Block

theorem lawfulOrderOrd_leOfOrd {α : Type} [Ord α] [Std.OrientedOrd α] : @Std.LawfulOrderOrd α _ leOfOrd :=
  letI : LE α := leOfOrd
  { isLE_compare := fun _ _ => Iff.rfl
    isGE_compare := fun _ _ => Std.OrientedCmp.isGE_iff_isLE }

/-- Comparison, order and equality of a type agree, and the order is linear. -/
structure CoherentOrder (α : Type) [Ord α] [LE α] [BEq α] : Prop where
  le_compare : Std.LawfulOrderOrd α
  linear : Std.IsLinearOrder α
  beq_compare : Std.LawfulBEqOrd α

theorem coherentOrder_leOfOrd {α : Type} [Ord α] [Std.TransOrd α] [Std.LawfulEqOrd α] [DecidableEq α] :
    @CoherentOrder α _ leOfOrd _ :=
  letI : LE α := leOfOrd
  haveI : Std.LawfulOrderOrd α := lawfulOrderOrd_leOfOrd
  ⟨inferInstance, .of_ord, inferInstance⟩

namespace AnyFamily

variable {α : Family → Type} {f : Family}

section Order

variable [∀ f, Ord (α f)]

theorem compare_of (x y : α f) : compare (of x) (of y) = compare x y := by
  cases f <;> rfl

theorem of_v4_lt_of_v6 (x : α .v4) (y : α .v6) : of x < of y := rfl

instance [∀ f, Std.TransOrd (α f)] : Std.TransOrd (AnyFamily α) where
  eq_swap {x y} :=
    match x, y with
    | ⟨.v4, x⟩, ⟨.v4, y⟩ => @Std.OrientedCmp.eq_swap (α .v4) compare _ x y
    | ⟨.v4, _⟩, ⟨.v6, _⟩ | ⟨.v6, _⟩, ⟨.v4, _⟩ => rfl
    | ⟨.v6, x⟩, ⟨.v6, y⟩ => @Std.OrientedCmp.eq_swap (α .v6) compare _ x y
  isLE_trans {x y z} hxy hyz :=
    match x, y, z with
    | ⟨.v4, x⟩, ⟨.v4, y⟩, ⟨.v4, z⟩ => @Std.TransCmp.isLE_trans (α .v4) compare _ x y z hxy hyz
    | ⟨.v4, _⟩, _, ⟨.v6, _⟩ => rfl
    | ⟨.v6, _⟩, ⟨.v4, _⟩, _ => nomatch hxy
    | _, ⟨.v6, _⟩, ⟨.v4, _⟩ => nomatch hyz
    | ⟨.v6, x⟩, ⟨.v6, y⟩, ⟨.v6, z⟩ => @Std.TransCmp.isLE_trans (α .v6) compare _ x y z hxy hyz

instance [∀ f, Std.LawfulEqOrd (α f)] : Std.LawfulEqOrd (AnyFamily α) where
  compare_self {x} := (compare_of x.content x.content).trans Std.ReflCmp.compare_self
  eq_of_compare {x y} h :=
    match x, y with
    | ⟨.v4, _⟩, ⟨.v4, _⟩ | ⟨.v6, _⟩, ⟨.v6, _⟩ => of_inj.2 (Std.LawfulEqOrd.eq_of_compare h)
    | ⟨.v4, _⟩, ⟨.v6, _⟩ | ⟨.v6, _⟩, ⟨.v4, _⟩ => nomatch h

end Order

section Equality

variable [∀ f, DecidableEq (α f)]

theorem of_beq_of (x y : α f) : (of x == of y) = (x == y) := by
  rw [Bool.eq_iff_iff, beq_iff_eq, beq_iff_eq, of_inj]

theorem holds_eq_beq (x : AnyFamily α) (y : α f) : x.holds y = (x == of y) := by
  obtain ⟨g, x⟩ := x
  cases f <;> cases g
  · exact (of_beq_of x y).symm
  · rfl
  · rfl
  · exact (of_beq_of x y).symm

theorem holds_iff {x : AnyFamily α} {y : α f} : x.holds y ↔ x = of y := by
  rw [holds_eq_beq, beq_iff_eq]

end Equality

/-- Things of either family are ordered as in their families, all of v4 before all of v6, and equality with a thing of a
known family is equality with that thing taken as one of either family. -/
structure InheritsOrder (α : Family → Type) [∀ f, DecidableEq (α f)] [∀ f, Ord (α f)] [∀ f, LE (α f)] : Prop where
  v4_lt_v6 (x : α .v4) (y : α .v6) : of x < of y
  of_le_of {f : Family} (x y : α f) : of x ≤ of y ↔ x ≤ y
  of_beq_of {f : Family} (x y : α f) : (of x == of y) = (x == y)
  holds_eq {f : Family} (x : AnyFamily α) (y : α f) : x.holds y = (x == of y)
  heldBy_eq {f : Family} (x : AnyFamily α) (y : α f) : heldBy y x = (x == of y)
  family_eq {f : Family} {x : AnyFamily α} {y : α f} : x.holds y → x.family = f
  trans_any {f : Family} {x : AnyFamily α} {y z : α f} : heldBy y x → x.holds z → y == z
  trans_known {f : Family} {x z : AnyFamily α} {y : α f} : x.holds y → heldBy y z → x == z
  beq_trans_holds {f : Family} {x z : AnyFamily α} {y : α f} : x == z → z.holds y → x.holds y
  holds_trans_beq {f : Family} {x : AnyFamily α} {y z : α f} : x.holds y → y == z → x.holds z

theorem inheritsOrder [∀ f, DecidableEq (α f)] [∀ f, Ord (α f)] [∀ f, LE (α f)] [∀ f, Std.LawfulOrderOrd (α f)] :
    InheritsOrder α where
  v4_lt_v6 := of_v4_lt_of_v6
  of_le_of x y := by
    change (compare (of x) (of y)).isLE ↔ x ≤ y
    rw [compare_of, Std.isLE_compare]
  of_beq_of := of_beq_of
  holds_eq := holds_eq_beq
  heldBy_eq := holds_eq_beq
  family_eq h := by
    rw [holds_iff.1 h]
    rfl
  trans_any hy hz := by
    rw [beq_iff_eq, ← of_inj]
    exact (holds_iff.1 hy).symm.trans (holds_iff.1 hz)
  trans_known hx hz := by
    rw [beq_iff_eq]
    exact (holds_iff.1 hx).trans (holds_iff.1 hz).symm
  beq_trans_holds hxz hz := by
    rwa [eq_of_beq hxz]
  holds_trans_beq hx hyz := by
    rwa [← eq_of_beq hyz]

end AnyFamily

instance {f : Family} : Std.LawfulOrderOrd (Address f) := lawfulOrderOrd_leOfOrd

instance {f : Family} : Std.LawfulOrderOrd (Block f) := lawfulOrderOrd_leOfOrd

/-- Addresses compare as their octets and as their numbers do, blocks by value and then by mask, and all v4 things come
before all v6 ones. On every layer order and equality are coherent, also between the layers. -/
theorem compare_coherent :
    (∀ (f : Family) (a b : Address f),
      compare a b = compare a.octets b.octets ∧ compare a.octets b.octets = compare a.toNat b.toNat) ∧
    (∀ (f : Family) (b c : Block f), compare b c =
      (compare b.value.octets c.value.octets).then (compare b.mask.octets c.mask.octets)) ∧
    AnyFamily.InheritsOrder Address ∧ AnyFamily.InheritsOrder Block ∧
    (∀ f, CoherentOrder (Address f)) ∧ (∀ f, CoherentOrder (Block f)) ∧
    CoherentOrder IpAddress ∧ CoherentOrder IpBlock := by
  refine ⟨fun f a b => ⟨(a.compare_octets b).symm, a.compare_octets b⟩, fun f b c => ?_,
    AnyFamily.inheritsOrder, AnyFamily.inheritsOrder,
    fun f => coherentOrder_leOfOrd, fun f => coherentOrder_leOfOrd, coherentOrder_leOfOrd, coherentOrder_leOfOrd⟩
  rw [Address.compare_octets, Address.compare_octets]
  rfl

end Inet
