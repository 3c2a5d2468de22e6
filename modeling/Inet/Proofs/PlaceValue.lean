import Mathlib.Algebra.BigOperators.Fin
import Inet.Address.Lemmas

/-!
An address as one positional number. Its octets and its groups are words that each count for a power of the base, and
the bit operations act on every word alone, so all views of an address agree on its value and on what a mask keeps.
-/

namespace Inet

namespace Numeral

variable {base : Nat}

theorem value_ofFn {count : Nat} (d : Fin count → Nat) :
    value base (List.ofFn d) = ∑ i, d i * base ^ (count - 1 - i.val) := by
  induction count with
  | zero => rfl
  | succ count ih =>
    -- The digit that follows raises every place before it by one power.
    have hplace (i : Fin count) : base ^ (count - i.val) = base ^ (count - 1 - i.val) * base := by
      rw [← Nat.pow_succ]
      congr 1
      omega
    rw [List.ofFn_succ', List.concat_eq_append, value_append_singleton, ih, Fin.sum_univ_castSucc, Finset.sum_mul]
    simp [hplace, mul_assoc]

theorem getElem_digits {count i : Nat} (n : Nat) (hi : i < (digits base count n).length) :
    (digits base count n)[i] = n / base ^ (count - 1 - i) % base := by
  induction count generalizing n with
  | zero => cases hi
  | succ count ih =>
    simp only [digits, List.getElem_append]
    split
    next hlt =>
      rw [length_digits] at hlt
      have hplace : count + 1 - 1 - i = count - 1 - i + 1 := by omega
      rw [ih, Nat.div_div_eq_div_mul, hplace, Nat.pow_succ']
    next hge =>
      rw [length_digits] at hge hi
      obtain rfl : i = count := by omega
      simp

theorem digits_zipWith {op : Nat → Nat → Nat} (hdiv : ∀ m n, op m n / base = op (m / base) (n / base))
    (hmod : ∀ m n, op m n % base = op (m % base) (n % base)) (count m n : Nat) :
    digits base count (op m n) = List.zipWith op (digits base count m) (digits base count n) := by
  induction count generalizing m n with
  | zero => rfl
  | succ count ih =>
    rw [digits, digits, digits, hdiv, hmod, ih, List.zipWith_append (by simp)]
    rfl

theorem digits_and (size count m n : Nat) : digits (2 ^ size) count (m &&& n) =
    List.zipWith (· &&& ·) (digits (2 ^ size) count m) (digits (2 ^ size) count n) :=
  digits_zipWith (fun _ _ => Nat.and_div_two_pow) (fun _ _ => Nat.and_mod_two_pow) count m n

theorem digits_or (size count m n : Nat) : digits (2 ^ size) count (m ||| n) =
    List.zipWith (· ||| ·) (digits (2 ^ size) count m) (digits (2 ^ size) count n) :=
  digits_zipWith (fun _ _ => Nat.or_div_two_pow) (fun _ _ => Nat.or_mod_two_pow) count m n

theorem digits_complement {count n : Nat} (hn : n < base ^ count) :
    digits base count (base ^ count - 1 - n) = (digits base count n).map fun d => base - 1 - d := by
  induction count generalizing n with
  | zero => rfl
  | succ count ih =>
    have hpos : 0 < base := Nat.pos_of_ne_zero fun h => by simp [h] at hn
    have hmod : n % base < base := Nat.mod_lt n hpos
    have hdiv : n / base < base ^ count := Nat.div_lt_of_lt_mul (by rwa [← Nat.pow_succ'])
    have hsplit : base ^ (count + 1) - 1 - n = (base ^ count - 1 - n / base) * base + (base - 1 - n % base) := by
      have hn' : n / base * base + n % base = n := Nat.div_add_mod' n base
      have hle : (n / base + 1) * base ≤ base ^ count * base := Nat.mul_le_mul_right base hdiv
      rw [Nat.pow_succ, Nat.sub_mul, Nat.sub_mul, Nat.one_mul]
      rw [Nat.succ_mul] at hle
      omega
    have hsmall : base - 1 - n % base < base := by omega
    rw [hsplit, digits_mul_add hsmall, ih hdiv, digits, List.map_append]
    rfl

end Numeral

/-- Words of `size` bits, told by their numbers: the bit operations of the words are those of the numbers. -/
structure WordsOf (size : Nat) {word : Type} [AndOp word] [OrOp word] [Complement word] (toNat : word → Nat) :
    Prop where
  injective : Function.Injective toNat
  toNat_and (x y : word) : toNat (x &&& y) = toNat x &&& toNat y
  toNat_or (x y : word) : toNat (x ||| y) = toNat x ||| toNat y
  toNat_not (x : word) : toNat (~~~x) = 2 ^ size - 1 - toNat x

theorem wordsOf_octet : WordsOf 8 UInt8.toNat where
  injective _ _ h := UInt8.toNat_inj.1 h
  toNat_and := UInt8.toNat_and
  toNat_or := UInt8.toNat_or
  toNat_not := UInt8.toNat_not

theorem wordsOf_group : WordsOf 16 UInt16.toNat where
  injective _ _ h := UInt16.toNat_inj.1 h
  toNat_and := UInt16.toNat_and
  toNat_or := UInt16.toNat_or
  toNat_not := UInt16.toNat_not

/-- Addresses as lists of words, most significant first. Each word counts for its power of the base, the words and the
address determine each other, and the bit operations act on every word alone. -/
structure PlaceValue (f : Family) (base : Nat) {count : Nat} {word : Type} [AndOp word] [OrOp word] [Complement word]
    (toNat : word → Nat) (words : Address f → Vector word count) (ofWords : Vector word count → Address f) : Prop where
  toNat_eq_sum (a : Address f) : a.toNat = ∑ i : Fin count, toNat (words a)[i] * base ^ (count - 1 - i.val)
  ofWords_words (a : Address f) : ofWords (words a) = a
  words_ofWords (ws : Vector word count) : words (ofWords ws) = ws
  getElem_and (a b : Address f) (i : Fin count) : (words (a &&& b))[i] = (words a)[i] &&& (words b)[i]
  getElem_or (a b : Address f) (i : Fin count) : (words (a ||| b))[i] = (words a)[i] ||| (words b)[i]
  getElem_not (a : Address f) (i : Fin count) : (words (~~~a))[i] = ~~~(words a)[i]

namespace Address

variable {f : Family}

theorem toNat_and (a b : Address f) : (a &&& b).toNat = a.toNat &&& b.toNat := BitVec.toNat_and a.bits b.bits

theorem toNat_or (a b : Address f) : (a ||| b).toNat = a.toNat ||| b.toNat := BitVec.toNat_or a.bits b.bits

theorem toNat_not (a : Address f) : (~~~a).toNat = 2 ^ f.width - 1 - a.toNat := BitVec.toNat_not

def DigitsIn (base : Nat) {count : Nat} {word : Type} (toNat : word → Nat) (words : Address f → Vector word count) :
    Prop :=
  ∀ a, (words a).toList.map toNat = Numeral.digits base count a.toNat

namespace DigitsIn

variable {size base count : Nat} {word : Type} {toNat : word → Nat} {words : Address f → Vector word count}

theorem toNat_getElem (h : DigitsIn base toNat words) (a : Address f) (i : Fin count) :
    toNat (words a)[i] = (Numeral.digits base count a.toNat).get ⟨i, by simp⟩ := by
  simp [← h a]

theorem toNat_eq_sum (h : DigitsIn base toNat words) (hpow : base ^ count = 2 ^ f.width) (a : Address f) :
    a.toNat = ∑ i : Fin count, toNat (words a)[i] * base ^ (count - 1 - i.val) := by
  have hlt : a.toNat < base ^ count := hpow ▸ a.toNat_lt
  have hdigits : List.ofFn (fun i : Fin count => toNat (words a)[i]) = Numeral.digits base count a.toNat := by
    apply List.ext_getElem
    · simp
    · intro i hi _
      rw [List.getElem_ofFn]
      exact h.toNat_getElem a ⟨i, by simpa using hi⟩
  rw [← Numeral.value_ofFn, hdigits, Numeral.value_digits hlt]

variable [AndOp word] [OrOp word] [Complement word]

theorem placeValue (hsize : WordsOf size toNat) (h : DigitsIn (2 ^ size) toNat words)
    (hpow : (2 ^ size) ^ count = 2 ^ f.width) {ofWords : Vector word count → Address f}
    (hleft : ∀ a, ofWords (words a) = a) (hright : ∀ ws, words (ofWords ws) = ws) :
    PlaceValue f (2 ^ size) toNat words ofWords where
  toNat_eq_sum := h.toNat_eq_sum hpow
  ofWords_words := hleft
  words_ofWords := hright
  getElem_and a b i := by
    apply hsize.injective
    rw [hsize.toNat_and]
    simp only [h.toNat_getElem, toNat_and, Numeral.digits_and, List.get_eq_getElem, List.getElem_zipWith]
  getElem_or a b i := by
    apply hsize.injective
    rw [hsize.toNat_or]
    simp only [h.toNat_getElem, toNat_or, Numeral.digits_or, List.get_eq_getElem, List.getElem_zipWith]
  getElem_not a i := by
    have hlt : a.toNat < (2 ^ size) ^ count := hpow ▸ a.toNat_lt
    apply hsize.injective
    rw [hsize.toNat_not]
    simp only [h.toNat_getElem, toNat_not, ← hpow, Numeral.digits_complement hlt, List.get_eq_getElem, List.getElem_map]

end DigitsIn

theorem placeValue_octets (f : Family) : PlaceValue f 256 UInt8.toNat octets ofOctets :=
  DigitsIn.placeValue wordsOf_octet map_toNat_octets f.octets_pow ofOctets_octets octets_ofOctets

theorem placeValue_groups : PlaceValue .v6 65536 UInt16.toNat groups ofGroups :=
  DigitsIn.placeValue wordsOf_group map_toNat_groups Family.v6.components_pow ofGroups_groups groups_ofGroups

def highOctet (j : Fin 8) : Fin Family.v6.octetCount := ⟨2 * j, by
  have hj := j.isLt
  change _ < 16
  omega⟩

def lowOctet (j : Fin 8) : Fin Family.v6.octetCount := ⟨2 * j + 1, by
  have hj := j.isLt
  change _ < 16
  omega⟩

theorem toNat_octet (a : Address f) (i : Fin f.octetCount) :
    a.octets[i].toNat = a.toNat / 256 ^ (f.octetCount - 1 - i) % 256 := by
  rw [DigitsIn.toNat_getElem map_toNat_octets, List.get_eq_getElem, Numeral.getElem_digits]

theorem toNat_group (a : Address .v6) (j : Fin 8) : a.groups[j].toNat = a.toNat / 65536 ^ (7 - j.val) % 65536 := by
  have hdigits : DigitsIn 65536 UInt16.toNat groups := map_toNat_groups
  rw [hdigits.toNat_getElem, List.get_eq_getElem, Numeral.getElem_digits]

/-- A group is its two octets, the more significant one in front. -/
theorem groups_pair_octets (a : Address .v6) (j : Fin 8) :
    a.groups[j].toNat = a.octets[highOctet j].toNat * 256 + a.octets[lowOctet j].toNat := by
  have hj := j.isLt
  -- Two octets stand behind every group that does.
  have hlow : 256 ^ (16 - 1 - (2 * j.val + 1)) = 65536 ^ (7 - j.val) := by
    rw [show 65536 = 256 ^ 2 from rfl, ← Nat.pow_mul]
    congr 1
    omega
  have hhigh : 256 ^ (16 - 1 - 2 * j.val) = 65536 ^ (7 - j.val) * 256 := by
    rw [← hlow, ← Nat.pow_succ]
    congr 1
    omega
  rw [toNat_group, toNat_octet, toNat_octet]
  change _ = a.toNat / 256 ^ (16 - 1 - 2 * j.val) % 256 * 256 + a.toNat / 256 ^ (16 - 1 - (2 * j.val + 1)) % 256
  rw [hhigh, hlow, ← Nat.div_div_eq_div_mul]
  omega

theorem octets_ofGroups (gs : Vector UInt16 8) (j : Fin 8) :
    (ofGroups gs).octets[highOctet j].toNat = gs[j].toNat / 256 ∧
    (ofGroups gs).octets[lowOctet j].toNat = gs[j].toNat % 256 := by
  have hpair := groups_pair_octets (ofGroups gs) j
  rw [groups_ofGroups] at hpair
  have hlow := (ofGroups gs).octets[lowOctet j].toNat_lt
  omega

theorem ofOctets?_eq_ok_iff {os : List UInt8} {a : Address f} : ofOctets? f os = .ok a ↔ os = a.octets.toList := by
  unfold ofOctets?
  split
  next hlen =>
    rw [Except.ok.injEq]
    constructor
    · rintro rfl
      rw [octets_ofOctets, Vector.toList_mk]
    · rintro rfl
      exact ofOctets_octets a
  next hlen =>
    have hne : os ≠ a.octets.toList := by
      rintro rfl
      exact hlen (by simp)
    simp [hne]

theorem ofOctets?_eq_error_iff {os : List UInt8} {e : LengthError} :
    ofOctets? f os = .error e ↔ os.length ≠ f.octetCount ∧ e = ⟨f.octetCount, os.length⟩ := by
  unfold ofOctets?
  split
  next hlen => simp [hlen]
  next hlen => simp [hlen, eq_comm]

/-- The number, the octets and the groups of an address are one positional number, and each view is inverse to the way
back from it; a list of octets is an address exactly if it is as long as one. -/
theorem views_place_value :
    (∀ (f : Family) (a : Address f), ofNat f a.toNat = a) ∧
    (∀ (f : Family) (n : Nat), n < 2 ^ f.width → (ofNat f n).toNat = n) ∧
    (∀ f : Family, PlaceValue f 256 UInt8.toNat octets ofOctets) ∧
    PlaceValue .v6 65536 UInt16.toNat groups ofGroups ∧
    ∀ (f : Family) (os : List UInt8),
      (∀ a, ofOctets? f os = .ok a ↔ os = a.octets.toList) ∧
      ∀ e, ofOctets? f os = .error e ↔ os.length ≠ f.octetCount ∧ e = ⟨f.octetCount, os.length⟩ :=
  ⟨fun _ => ofNat_toNat, fun _ _ => toNat_ofNat, placeValue_octets, placeValue_groups,
    fun _ _ => ⟨fun _ => ofOctets?_eq_ok_iff, fun _ => ofOctets?_eq_error_iff⟩⟩

theorem views_place_value_allOnes :
    2 ^ 128 - 1 < 2 ^ Family.v6.width ∧ (ofNat .v6 (2 ^ 128 - 1)).toNat = 2 ^ 128 - 1 := by
  have hlt : 2 ^ 128 - 1 < 2 ^ Family.v6.width := by decide
  exact ⟨hlt, views_place_value.2.1 .v6 _ hlt⟩

end Address

end Inet
