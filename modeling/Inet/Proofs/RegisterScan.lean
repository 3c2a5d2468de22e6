import Inet.Address.Registers
import Inet.Proofs.ScanMove

/-!
Registers follow a scan. Registers stand for a scan, and what they hold is bounded by the counters: while a component
is read, its value stays below the power of the base that the count of its digits gives, and the slots behind the
components that are closed are zero. Every operation of a step is exact within these bounds, and the step keeps them.
-/

namespace Inet

namespace Family

theorem componentCount_le (f : Family) : f.componentCount ≤ 8 := by
  cases f <;> decide

theorem maxDigits_le (f : Family) : f.maxDigits ≤ 4 := by
  cases f <;> decide

theorem radix_pow_le (f : Family) {count : Nat} (h : count ≤ f.maxDigits) : f.radix ^ count ≤ UInt16.size := calc
  f.radix ^ count ≤ f.radix ^ f.maxDigits := Nat.pow_le_pow_right (by cases f <;> decide) h
  _ ≤ UInt16.size := by cases f <;> decide

end Family

/-- A reader in registers ends as a reader without them: with related results, or with one refusal of the text. -/
inductive Mirrors {α β : Type} (R : α → β → Prop) : Except Halt α → Except ParseError β → Prop where
  | ok {a : α} {b : β} : R a b → Mirrors R (.ok a) (.ok b)
  | refused (e : ParseError) : Mirrors R (.error (.refused e)) (.error e)

namespace Mirrors

variable {α β γ δ : Type} {R S : α → β → Prop} {T : γ → δ → Prop} {x : Except Halt α} {y : Except ParseError β}

theorem mono (h : Mirrors R x y) (hRS : ∀ {a b}, R a b → S a b) : Mirrors S x y := by
  cases h with
  | ok hab => exact .ok (hRS hab)
  | refused e => exact .refused e

theorem bind {g : α → Except Halt γ} {k : β → Except ParseError δ} (h : Mirrors R x y)
    (hcont : ∀ {a b}, R a b → Mirrors T (g a) (k b)) : Mirrors T (x >>= g) (y >>= k) := by
  cases h with
  | ok hab => exact hcont hab
  | refused e => exact .refused e

theorem map {g : α → γ} {k : β → δ} (h : Mirrors R x y) (hmap : ∀ {a b}, R a b → T (g a) (k b)) :
    Mirrors T (x.map g) (y.map k) := by
  cases h with
  | ok hab => exact .ok (hmap hab)
  | refused e => exact .refused e

theorem map_eq {g : α → β} (h : Mirrors (fun a b => g a = b) x y) : x.map g = y.mapError .refused := by
  cases h with
  | ok hab => exact congrArg Except.ok hab
  | refused e => rfl

theorem of_ok {a : α} (h : Mirrors R x y) (hx : x = .ok a) : ∃ b, y = .ok b ∧ R a b := by
  subst hx
  cases h with
  | ok hab => exact ⟨_, rfl, hab⟩

theorem ne_fault (h : Mirrors R x y) (fault : Fault) : x ≠ .error (.fault fault) := by
  cases h <;> nofun

end Mirrors

namespace Registers

section Words

theorem toNat_increment {n : UInt8} (h : n.toNat + 1 < UInt8.size) : (n + 1).toNat = n.toNat + 1 := by
  rw [UInt8.toNat_add, UInt8.toNat_one, Nat.mod_eq_of_lt h]

theorem increment_eq_ok {n : UInt8} (h : n.toNat + 1 < UInt8.size) : increment n = .ok (n + 1) := if_pos h

theorem exists_appendDigit {value : UInt32} {radix digit : Nat} (h : value.toNat * radix + digit < UInt32.size)
    (hradix : radix < UInt32.size) : ∃ next, appendDigit value (.ofNat radix) (.ofNat digit) = .ok next ∧
      next.toNat = value.toNat * radix + digit := by
  have hr : (UInt32.ofNat radix).toNat = radix := UInt32.toNat_ofNat_of_lt hradix
  have hd : (UInt32.ofNat digit).toNat = digit := UInt32.toNat_ofNat_of_lt (Nat.lt_of_le_of_lt (Nat.le_add_left _ _) h)
  refine ⟨_, if_pos (by rwa [hr, hd]), ?_⟩
  rw [UInt32.toNat_add, UInt32.toNat_mul, hr, hd, Nat.mod_add_mod, Nat.mod_eq_of_lt h]

theorem narrow_eq_ok {n : UInt32} (h : n.toNat < UInt16.size) : narrow n = .ok n.toUInt16 := if_pos h

theorem toNat_narrow {n : UInt32} (h : n.toNat < UInt16.size) : n.toUInt16.toNat = n.toNat := by
  rw [UInt32.toNat_toUInt16, Nat.mod_eq_of_lt h]

theorem store_eq_ok {i : Nat} (h : i < 8) (slots : Vector UInt16 8) (word : UInt16) :
    store slots i word = .ok (slots.setIfInBounds i word) := by
  rw [store, dif_pos h]
  congr 1
  ext j hj
  rw [Vector.getElem_set, Vector.getElem_setIfInBounds]

end Words

def components (r : Registers) : List Nat := (r.slots.toList.take r.size.toNat).map UInt16.toNat

def mark (r : Registers) : Mark :=
  match r.phase with
  | .start => .start
  | .digit => .digits r.first r.count.toNat r.value.toNat
  | .dot => .dot
  | .colon => if r.leading then .leadingColon else if r.doubled then .gap else .colon

def scan (r : Registers) : Scan where
  components := r.components
  gap := if r.gapped then some r.gapStart.toNat else none
  mark := r.mark

structure Stored (f : Family) (r : Registers) : Prop where
  size_le : r.size.toNat ≤ f.componentCount
  gapStart_le : r.gapStart.toNat ≤ r.size.toNat
  eq_zero_of_le : ∀ i (h : i < 8), r.size.toNat ≤ i → r.slots[i] = 0
  lt_base : ∀ i (h : i < 8), r.slots[i].toNat < f.componentBase
  v6_of_gapped : r.gapped → f = .v6

/-- What registers hold after any text that they have read without an error. -/
structure Sound (f : Family) (r : Registers) : Prop extends Stored f r where
  count_le : r.count.toNat ≤ f.maxDigits
  value_lt : r.value.toNat < f.radix ^ r.count.toNat
  count_pos_iff : 1 ≤ r.count.toNat ↔ r.phase = .digit
  v4_of_dot : r.phase = .dot → f = .v4
  v6_of_colon : r.phase = .colon → f = .v6
  -- Either flag tells of the colon that was read last, and one colon cannot open the text and be the second of two.
  colon_of_leading : r.leading → r.phase = .colon
  colon_of_doubled : r.doubled → r.phase = .colon
  not_doubled_of_leading : r.leading → ¬ r.doubled

def Represents (f : Family) (r : Registers) (s : Scan) : Prop := r.Sound f ∧ r.scan = s

variable {f : Family} {r : Registers}

theorem length_scan_components (h : r.Stored f) : r.scan.components.length = r.size.toNat := by
  have hsize : r.size.toNat ≤ 8 := h.size_le.trans f.componentCount_le
  simp [scan, components, hsize]

theorem scan_mark_of_digit (hphase : r.phase = .digit) : r.scan.mark = .digits r.first r.count.toNat r.value.toNat := by
  simp [scan, mark, hphase]

theorem sound_start (f : Family) : start.Sound f where
  size_le := Nat.zero_le _
  gapStart_le := le_rfl
  eq_zero_of_le i h _ := by simp [start]
  lt_base i h := by cases f <;> simp [start, Family.componentBase]
  v6_of_gapped := nofun
  count_le := Nat.zero_le _
  value_lt := Nat.one_pos
  count_pos_iff := by decide
  v4_of_dot := nofun
  v6_of_colon := nofun
  colon_of_leading := nofun
  colon_of_doubled := nofun
  not_doubled_of_leading := nofun

theorem Sound.count_eq_zero (h : r.Sound f) (hphase : r.phase ≠ .digit) : r.count = 0 := by
  have hcount : ¬ 1 ≤ r.count.toNat := fun hpos => hphase (h.count_pos_iff.1 hpos)
  apply UInt8.toNat_inj.1
  rw [UInt8.toNat_zero]
  omega

theorem Sound.value_eq_zero (h : r.Sound f) (hphase : r.phase ≠ .digit) : r.value = 0 := by
  have hvalue := h.value_lt
  rw [h.count_eq_zero hphase] at hvalue
  apply UInt32.toNat_inj.1
  exact Nat.lt_one_iff.1 hvalue

theorem Sound.value_lt_word (h : r.Sound f) : r.value.toNat < UInt16.size :=
  h.value_lt.trans_le (f.radix_pow_le h.count_le)

theorem Sound.leading_eq_false (h : r.Sound f) (hphase : r.phase ≠ .colon) : r.leading = false :=
  Bool.eq_false_iff.2 (mt h.colon_of_leading hphase)

theorem Sound.doubled_eq_false (h : r.Sound f) (hphase : r.phase ≠ .colon) : r.doubled = false :=
  Bool.eq_false_iff.2 (mt h.colon_of_doubled hphase)

section Close

def push (r : Registers) (phase : Phase) : Registers :=
  { r with
    phase
    size := r.size + 1
    slots := r.slots.setIfInBounds r.size.toNat r.value.toUInt16
    count := 0
    value := 0 }

theorem toNat_size_push (hroom : r.size.toNat < f.componentCount) (phase : Phase) :
    (r.push phase).size.toNat = r.size.toNat + 1 := by
  have hcount := f.componentCount_le
  apply toNat_increment
  simp only [UInt8.size]
  omega

theorem stored_push (h : r.Sound f) (hroom : r.size.toNat < f.componentCount)
    (hvalue : r.value.toNat < f.componentBase) (phase : Phase) : (r.push phase).Stored f where
  size_le := by rwa [toNat_size_push hroom]
  gapStart_le := by
    rw [toNat_size_push hroom]
    exact h.gapStart_le.trans (Nat.le_succ _)
  eq_zero_of_le i hi hle := by
    rw [toNat_size_push hroom] at hle
    have hne : r.size.toNat ≠ i := by omega
    simpa [push, Vector.getElem_setIfInBounds, hne] using h.eq_zero_of_le i hi (by omega)
  lt_base i hi := by
    simp only [push, Vector.getElem_setIfInBounds]
    split_ifs
    · rwa [toNat_narrow h.value_lt_word]
    · exact h.lt_base i hi
  v6_of_gapped := h.v6_of_gapped

theorem components_push (h : r.Sound f) (hroom : r.size.toNat < f.componentCount) (phase : Phase) :
    (r.push phase).components = r.components ++ [r.value.toNat] := by
  have hlen : r.size.toNat < r.slots.toList.length := by simpa using hroom.trans_le f.componentCount_le
  rw [components, toNat_size_push hroom]
  simp only [push, Vector.toList_setIfInBounds]
  rw [List.take_add_one, List.take_set_of_le le_rfl, List.getElem?_set_self hlen]
  simp only [Option.toList_some, List.map_append, List.map_singleton, toNat_narrow h.value_lt_word, components]

theorem mirrors_close (h : r.Sound f) (phase : Phase) (mark : Mark) :
    Mirrors (fun t s => t = r.push phase ∧ t.Stored f ∧ s = { r.scan with components := t.components, mark })
      (r.close f phase) (r.scan.close f r.value.toNat mark) := by
  have hsize : r.size.toNat + 1 < UInt8.size := by
    have hcount := h.size_le.trans f.componentCount_le
    simp only [UInt8.size]
    omega
  have hoctet : (f = .v4 ∧ 255 < r.value.toNat) ↔ f.componentBase ≤ r.value.toNat := by
    have hword := h.value_lt_word
    cases f <;> simp [Family.componentBase, UInt16.size] at hword ⊢ <;> omega
  simp only [close, Scan.close, length_scan_components h.toStored, hoctet, increment_eq_ok hsize,
    narrow_eq_ok h.value_lt_word, bind, Except.bind, toNat_increment hsize, toNat_narrow h.value_lt_word]
  split_ifs with hfull hlarge
  · exact .refused _
  · exact .refused _
  · rw [Nat.not_le] at hfull hlarge
    rw [store_eq_ok (hfull.trans_le f.componentCount_le)]
    refine .ok ⟨rfl, stored_push h hfull hlarge phase, ?_⟩
    exact congrArg (Scan.mk · _ _) (components_push h hfull phase).symm

theorem mirrors_separator (h : r.Sound f) (hphase : r.phase = .digit) {phase : Phase}
    (hsep : (phase = .dot ∧ f = .v4) ∨ (phase = .colon ∧ f = .v6)) :
    Mirrors (Represents f) (r.close f phase) (r.scan.close f r.value.toNat (r.push phase).mark) := by
  refine (mirrors_close h phase _).mono ?_
  rintro t s ⟨rfl, hstored, rfl⟩
  have hleading := h.leading_eq_false (by simp [hphase])
  have hdoubled := h.doubled_eq_false (by simp [hphase])
  obtain ⟨hdigit, hdot, hcolon⟩ : phase ≠ .digit ∧ (phase = .dot → f = .v4) ∧ (phase = .colon → f = .v6) := by
    rcases hsep with ⟨rfl, rfl⟩ | ⟨rfl, rfl⟩ <;> simp
  exact ⟨{ hstored with
    count_le := Nat.zero_le _
    value_lt := Nat.one_pos
    count_pos_iff := by simp [push, hdigit]
    v4_of_dot := hdot
    v6_of_colon := hcolon
    colon_of_leading := by simp [push, hleading]
    colon_of_doubled := by simp [push, hdoubled]
    not_doubled_of_leading := by simp [push, hleading] }, rfl⟩

end Close

section Digits

structure Ready (f : Family) (r : Registers) : Prop extends Stored f r where
  phase_eq : r.phase = .digit
  count_le : r.count.toNat ≤ f.maxDigits
  value_lt : r.value.toNat < f.radix ^ r.count.toNat
  leading_eq : r.leading = false
  doubled_eq : r.doubled = false

theorem Sound.beginDigit (h : r.Sound f) (hopen : ¬ (r.phase = .colon ∧ r.leading)) (position : Nat) :
    (r.beginDigit position).Ready f := by
  rw [Registers.beginDigit]
  split_ifs with hphase
  · have hcolon : r.phase ≠ .colon := by simp [hphase]
    exact { h with
      phase_eq := hphase
      leading_eq := h.leading_eq_false hcolon
      doubled_eq := h.doubled_eq_false hcolon }
  · exact { h.toStored with
      phase_eq := rfl
      count_le := h.count_le
      value_lt := h.value_lt
      leading_eq := Bool.eq_false_iff.2 fun hleading => hopen ⟨h.colon_of_leading hleading, hleading⟩
      doubled_eq := rfl }

theorem mirrors_takeDigit (h : r.Ready f) (d : Nat) :
    Mirrors (Represents f) (r.takeDigit f d)
      (if f.radix ≤ d ∨ f.maxDigits ≤ r.count.toNat then .error (.invalidComponent r.first)
        else .ok { r.scan with mark := .digits r.first (r.count.toNat + 1) (r.value.toNat * f.radix + d) }) := by
  have hsucc : r.count.toNat + 1 < UInt8.size := by
    have hcount := h.count_le.trans f.maxDigits_le
    simp only [UInt8.size]
    omega
  rw [takeDigit]
  by_cases hd : f.radix ≤ d
  · rw [if_pos hd, if_pos (.inl hd)]
    exact .refused _
  simp only [increment_eq_ok hsucc, bind, Except.bind, toNat_increment hsucc, Nat.lt_succ_iff, hd, if_false, false_or]
  split_ifs with hfull
  · exact .refused _
  have hnext : r.value.toNat * f.radix + d < f.radix ^ (r.count.toNat + 1) := calc
    r.value.toNat * f.radix + d < (r.value.toNat + 1) * f.radix := by rw [Nat.succ_mul]; omega
    _ ≤ f.radix ^ r.count.toNat * f.radix := Nat.mul_le_mul_right _ h.value_lt
  have hword : f.radix ^ (r.count.toNat + 1) ≤ UInt32.size :=
    (f.radix_pow_le (Nat.not_le.1 hfull)).trans (by decide)
  obtain ⟨next, happend, hvalue⟩ := exists_appendDigit (hnext.trans_le hword) (by cases f <;> decide)
  rw [happend]
  refine .ok ⟨{ h.toStored with
    count_le := by rw [toNat_increment hsucc]; omega
    value_lt := by rwa [toNat_increment hsucc, hvalue]
    count_pos_iff := by simp [toNat_increment hsucc, h.phase_eq]
    v4_of_dot := by simp [h.phase_eq]
    v6_of_colon := by simp [h.phase_eq]
    colon_of_leading := by simp [h.leading_eq]
    colon_of_doubled := by simp [h.doubled_eq]
    not_doubled_of_leading := by simp [h.leading_eq] }, ?_⟩
  simp [scan, components, mark, h.phase_eq, toNat_increment hsucc, hvalue]

theorem mark_open (hphase : r.phase ≠ .digit) (hopen : ¬ (r.phase = .colon ∧ r.leading)) : r.mark.Open := by
  unfold mark
  cases hread : r.phase with
  | start => exact .start
  | digit => exact absurd hread hphase
  | dot => exact .dot
  | colon =>
    have hleading : ¬ r.leading := fun hleading => hopen ⟨hread, hleading⟩
    dsimp only
    rw [if_neg hleading]
    split_ifs
    · exact .gap
    · exact .colon

theorem scan_digit (h : r.Sound f) (hopen : ¬ (r.phase = .colon ∧ r.leading)) (position d : Nat) :
    r.scan.digit f position d =
      if f.radix ≤ d ∨ f.maxDigits ≤ (r.beginDigit position).count.toNat then
        .error (.invalidComponent (r.beginDigit position).first)
      else .ok { (r.beginDigit position).scan with
        mark := .digits (r.beginDigit position).first ((r.beginDigit position).count.toNat + 1)
          ((r.beginDigit position).value.toNat * f.radix + d) } := by
  by_cases hphase : r.phase = .digit
  · simp only [beginDigit, if_pos hphase, Scan.digit, scan_mark_of_digit hphase]
  · have hmark := mark_open hphase hopen
    simp only [beginDigit, if_neg hphase, h.count_eq_zero hphase, h.value_eq_zero hphase, scan]
    generalize r.mark = readLast at hmark ⊢
    cases hmark <;> simp [Scan.digit, components]

theorem mirrors_digit (h : r.Sound f) (position d : Nat) :
    Mirrors (Represents f) (r.digit f position d) (r.scan.digit f position d) := by
  rw [digit]
  split_ifs with hclosed
  · have hmark : r.scan.mark = .leadingColon := by simp [scan, mark, hclosed]
    obtain rfl := h.v6_of_colon hclosed.1
    simp only [Scan.digit, hmark]
    exact .refused _
  · rw [scan_digit h hclosed]
    exact mirrors_takeDigit (h.beginDigit hclosed position) d

end Digits

section Separators

theorem mirrors_dot (h : r.Sound f) : Mirrors (Represents f) (r.dot f) (r.scan.dot f) := by
  cases f with
  | v6 => exact .refused _
  | v4 =>
    cases hphase : r.phase with
    | digit =>
      simp only [dot, hphase, Scan.dot, scan_mark_of_digit hphase]
      exact mirrors_separator h hphase (.inl ⟨rfl, rfl⟩)
    | start | dot =>
      simp only [dot, Scan.dot, scan, mark, hphase]
      exact .refused _
    | colon => cases h.v6_of_colon hphase

theorem mark_colon (hphase : r.phase = .colon) : r.mark.Colon := by
  simp only [mark, hphase]
  split_ifs
  · exact .leadingColon
  · exact .gap
  · exact .colon

theorem mirrors_leadingColon (h : r.Sound .v6) (hphase : r.phase = .start) :
    Mirrors (Represents .v6) (.ok { r with phase := .colon, leading := true })
      (.ok { r.scan with mark := .leadingColon }) := by
  have hcount := h.count_eq_zero (by simp [hphase])
  refine .ok ⟨{ h with
    count_pos_iff := by simp [hcount]
    v4_of_dot := by simp
    v6_of_colon := fun _ => rfl
    colon_of_leading := fun _ => rfl
    colon_of_doubled := fun _ => rfl
    not_doubled_of_leading := fun _ => by simp [h.doubled_eq_false, hphase] }, rfl⟩

theorem mirrors_gap (h : r.Sound .v6) (hphase : r.phase = .colon) :
    Mirrors (Represents .v6) (r.colon .v6) (r.scan.colon .v6) := by
  have hscan : r.scan.colon .v6 = if r.gapped then .error .repeatedGap
      else .ok { r.scan with gap := some r.size.toNat, mark := .gap } := by
    have hlen : r.scan.components.length = r.size.toNat := length_scan_components h.toStored
    have hmark : r.scan.mark.Colon := mark_colon hphase
    have hgap : r.scan.gap.isSome = r.gapped := by simp only [scan]; cases r.gapped <;> rfl
    generalize r.scan = s at hlen hmark hgap ⊢
    obtain ⟨components, gap, readLast⟩ := s
    cases hmark <;> simp only [Scan.colon, hgap, hlen]
  rw [hscan]
  simp only [colon, hphase]
  split_ifs
  · exact .refused _
  · refine .ok ⟨{ h with
      gapStart_le := le_rfl
      v6_of_gapped := fun _ => rfl
      count_pos_iff := hphase ▸ h.count_pos_iff
      v4_of_dot := by simp
      v6_of_colon := fun _ => rfl
      colon_of_leading := by simp
      colon_of_doubled := fun _ => rfl
      not_doubled_of_leading := by simp }, rfl⟩

theorem mirrors_colon (h : r.Sound f) : Mirrors (Represents f) (r.colon f) (r.scan.colon f) := by
  cases f with
  | v4 => exact .refused _
  | v6 =>
    cases hphase : r.phase with
    | start =>
      simp only [colon, hphase, Scan.colon, show r.scan.mark = .start by simp [scan, mark, hphase]]
      exact mirrors_leadingColon h hphase
    | digit =>
      have hpush : (r.push .colon).mark = .colon := by
        simp [push, mark, h.leading_eq_false, h.doubled_eq_false, hphase]
      simp only [colon, hphase, Scan.colon, scan_mark_of_digit hphase]
      rw [← hpush]
      exact mirrors_separator h hphase (.inr ⟨rfl, rfl⟩)
    | dot => cases h.v4_of_dot hphase
    | colon => exact mirrors_gap h hphase

end Separators

theorem mirrors_step (h : r.Sound f) (position : Nat) (c : Char) :
    Mirrors (Represents f) (r.step f position c) (r.scan.step f position c) := by
  rw [step, Scan.step]
  cases hc : Numeral.digit? c with
  | some d => exact mirrors_digit h position d
  | none =>
    dsimp only
    split_ifs
    · exact mirrors_dot h
    · exact mirrors_colon h
    · exact .refused _
    · exact .refused _

theorem mirrors_run (h : r.Sound f) (position : Nat) (cs : List Char) :
    Mirrors (Represents f) (r.run f position cs) (r.scan.run f position cs) := by
  induction cs generalizing r position with
  | nil => exact .ok ⟨h, rfl⟩
  | cons c cs ih =>
    refine (mirrors_step h position c).bind ?_
    rintro t _ ⟨ht, rfl⟩
    exact ih ht _

end Registers

end Inet
