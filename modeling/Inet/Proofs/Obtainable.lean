import Inet.Datum
import Inet.Proofs.BlockInclusion
import Inet.Session

/-!
What operations can make. Values come from octets, from text and from stored data, and from values by operations;
sessions hold no others. An address and a mask are the value and the mask of a block that can be made exactly if the
address has no bit outside the mask. A block is made again from its mask and any of its members, so under one mask to be
a member and to make the same block are one equivalence.
-/

namespace Inet

/-- The values that some sequence of operations gives. -/
inductive Obtainable : Value → Prop where
  | octets {f : Family} (os : Vector UInt8 f.octetCount) : Obtainable (.ofAddress (.ofOctets os))
  | parse {k : Kind} {text : String} {x : k.Carrier} : k.parse text = .ok x → Obtainable ⟨k, x⟩
  | decode {k : Kind} {d : Datum} {x : k.Carrier} : (k.decode d).result = .ok x → Obtainable ⟨k, x⟩
  | unary (op : UnaryOp) {v w : Value} : Obtainable v → op.apply v = .ok w → Obtainable w
  | binary (op : BinaryOp) {u v w : Value} : Obtainable u → Obtainable v → op.apply u v = .ok w → Obtainable w

variable {f : Family}

namespace Obtainable

theorem address (a : Address f) : Obtainable (.ofAddress a) := by
  rw [← a.ofOctets_octets]
  exact .octets a.octets

theorem ofMask (a m : Address f) : Obtainable (.ofBlock (.ofMask a m)) := by
  apply binary .block (address a) (address m)
  cases f <;> rfl

end Obtainable

namespace Session

variable {s : Session} {name target : String} {v : Value}

def Sound (s : Session) : Prop := ∀ entry ∈ s.registers, Obtainable entry.2

namespace Sound

theorem find (h : s.Sound) (hv : s.find name = .ok v) : Obtainable v := by
  unfold Session.find at hv
  split at hv
  next w hlookup =>
    injection hv with hv
    obtain ⟨before, after, hregisters, _⟩ := List.lookup_eq_some_iff.1 hlookup
    exact hv ▸ h (name, w) (by simp [hregisters])
  next => cases hv

theorem store (h : s.Sound) (hv : Obtainable v) : (s.store target v).Sound := by
  intro entry hentry
  rcases List.mem_cons.1 hentry with rfl | hentry
  · exact hv
  · exact h entry (List.mem_filter.1 hentry).1

theorem keep (h : s.Sound) {r : Except ValueError Value} (hr : ∀ v, r = .ok v → Obtainable v) :
    (s.after (s.keep target r)).Sound := by
  cases r with
  | ok v => exact h.store (hr v rfl)
  | error e => exact h

theorem answer {α : Type} (h : s.Sound) (reply : α → Reply) (x : Option α) : (s.after (s.answer reply x)).Sound := by
  cases x <;> exact h

theorem find_bind (h : s.Sound) {next : Value → Outcome} (hnext : ∀ v, Obtainable v → (s.after (next v)).Sound) :
    (s.after ((s.find name).bind next)).Sound := by
  cases hfind : s.find name with
  | ok v => exact hnext v (h.find hfind)
  | error e => exact h

theorem step (h : s.Sound) (c : Command) : (s.after (s.step c).result).Sound := by
  cases c with
  | parse target kind text =>
    simp only [Session.step, Traced.result_bind, Kind.result_read]
    cases hparse : kind.parse text with
    | ok x => exact h.keep fun v hv => Except.ok.inj hv ▸ .parse hparse
    | error e => exact h
  | maskOfLength target family length =>
    apply h.keep
    intro v hv
    cases hmask : Address.prefixMask? family length with
    | ok m =>
      rw [hmask] at hv
      exact Except.ok.inj hv ▸ .address m
    | error e =>
      rw [hmask] at hv
      cases hv
  | unary op target source => exact h.find_bind fun v hv => h.keep fun w hw => .unary op hv hw
  | binary op target left right =>
    exact h.find_bind fun u hu => h.find_bind fun v hv => h.keep fun w hw => .binary op hu hv hw
  | contains block address => exact h.find_bind fun v _ => h.find_bind fun w _ => h.answer _ _
  | compare left right => exact h.find_bind fun v _ => h.find_bind fun w _ => h.answer _ _
  | inspect source => exact h.find_bind fun v _ => h
  | put octets => exact h
  | write source =>
    apply h.find_bind
    intro v _
    split <;> exact h
  | read target family =>
    simp only [Session.step, Traced.result_bind]
    split
    · exact h.store (.address _)
    · exact h

theorem run (h : s.Sound) (commands : List Command) : (s.run commands).2.Sound := by
  induction commands generalizing s with
  | nil => exact h
  | cons c commands ih => exact ih (h.step c)

end Sound

end Session

structure Block.Normal (b : Block f) : Prop where
  value_and_not_mask : b.value &&& ~~~b.mask = Address.unspecified f
  ofMask_value : ofMask b.value b.mask = b
  ofMask_broadcast : ofMask b.broadcast b.mask = b

def Value.Normal : Value → Prop
  | ⟨.block _, b⟩ => Block.Normal b
  | ⟨.anyBlock, b⟩ => Block.Normal (AnyFamily.content b)
  | _ => True

-- The type of blocks carries the absence of stray bits, so it does not matter how a block was made.
theorem Block.normal (b : Block f) : b.Normal where
  value_and_not_mask := b.value_and_not_mask
  ofMask_value := b.ofMask_value_mask
  ofMask_broadcast := (b.ofMask_eq_iff_contains b.broadcast).2 b.contains_broadcast

theorem Value.normal : (v : Value) → v.Normal
  | ⟨.block _, b⟩ => Block.normal b
  | ⟨.anyBlock, b⟩ => Block.normal (AnyFamily.content b)
  | ⟨.address _, _⟩ => trivial
  | ⟨.anyAddress, _⟩ => trivial

namespace Block

theorem exists_obtainable_iff {v m : Address f} :
    (∃ b : Block f, Obtainable (.ofBlock b) ∧ b.value = v ∧ b.mask = m) ↔ v &&& ~~~m = Address.unspecified f := by
  constructor
  · rintro ⟨b, _, rfl, rfl⟩
    exact b.value_and_not_mask
  · intro hfree
    exact ⟨ofMask v m, .ofMask v m, Address.and_not_eq_unspecified_iff.1 hfree, rfl⟩

theorem ofMask_eq_iff_contains_ofMask {x y m : Address f} : ofMask x m = ofMask y m ↔ (ofMask x m).contains y := by
  rw [contains_ofMask_iff, ofMask_eq_iff, eq_comm]

theorem contains_ofMask_equivalence (m : Address f) : Equivalence fun x y => (ofMask x m).contains y := by
  simp only [← ofMask_eq_iff_contains_ofMask]
  exact ⟨fun _ => rfl, Eq.symm, Eq.trans⟩

/-- Whatever operations make is normal, sessions hold nothing else, and all normal blocks are made. Two addresses make
one block under a mask exactly if each is a member of the other's block, which is an equivalence. -/
theorem obtainable_normal :
    (∀ v, Obtainable v → v.Normal) ∧
    (∀ commands, ∀ entry ∈ (Session.empty.run commands).2.registers, Obtainable entry.2) ∧
    (∀ (f : Family) (v m : Address f),
      (∃ b : Block f, Obtainable (.ofBlock b) ∧ b.value = v ∧ b.mask = m) ↔ v &&& ~~~m = Address.unspecified f) ∧
    ∀ (f : Family) (m : Address f),
      (∀ x y, (ofMask x m = ofMask y m ↔ (ofMask x m).contains y) ∧
        ((ofMask x m).contains y ↔ (ofMask y m).contains x)) ∧
      Equivalence fun x y => (ofMask x m).contains y := by
  have hempty : Session.empty.Sound := fun entry hentry => absurd hentry List.not_mem_nil
  refine ⟨fun v _ => v.normal, fun commands => hempty.run commands, fun f v m => exists_obtainable_iff, fun f m => ?_⟩
  have hequiv := contains_ofMask_equivalence m
  exact ⟨fun x y => ⟨ofMask_eq_iff_contains_ofMask, hequiv.symm, hequiv.symm⟩, hequiv⟩

theorem obtainable_normal_striped :
    ∃ commands, ∃ entry ∈ (Session.empty.run commands).2.registers,
      entry.2 = .ofBlock (ofMask (.ofNat .v4 0xf500fe00) (.ofNat .v4 0xff00ff00)) ∧
      Obtainable entry.2 ∧ entry.2.Normal := by
  obtain ⟨hnormal, hsession, _⟩ := obtainable_normal
  have hheld : ("again", .ofBlock (ofMask (.ofNat .v4 0xf500fe00) (.ofNat .v4 0xff00ff00))) ∈
      (Session.empty.run [.parse "any" .anyBlock "10.7.1.9/255.0.255.0", .unary .unwrap "block" "any",
        .unary .mask "mask" "block", .unary .broadcast "last" "block", .unary .complement "other" "last",
        .binary .block "again" "other" "mask"]).2.registers := by decide
  have hmade := hsession _ _ hheld
  exact ⟨_, _, hheld, rfl, hmade, hnormal _ hmade⟩

end Block

end Inet
