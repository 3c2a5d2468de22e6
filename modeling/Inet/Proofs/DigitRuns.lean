import Mathlib.Data.List.DropRight
import Mathlib.Data.String.Basic
import Inet.Proofs.FirstFault

/-!
Runs of digits. A text falls into runs of hexadecimal digits and the characters between them. What is said here follows
a text as it grows at its end: a digit lengthens the run that closes the text, any other character leaves none.
-/

namespace Inet

open String (utf8Len)

variable {c d : Char} {cs ds : List Char}

def closingDigits (cs : List Char) : List Char := cs.rtakeWhile isHexDigit

def beforeClosing (cs : List Char) : List Char := cs.rdropWhile isHexDigit

def runStart (cs : List Char) : Nat := utf8Len (beforeClosing cs)

/-- The runs of hexadecimal digits of a text, each as long as it can be. -/
def digitRuns (cs : List Char) : List (List Char) :=
  (cs.splitOnP fun c => !isHexDigit c).filter fun run => !run.isEmpty

theorem closingDigits_concat_digit (hc : isHexDigit c) : closingDigits (cs ++ [c]) = closingDigits cs ++ [c] :=
  List.rtakeWhile_concat_pos isHexDigit cs c hc

theorem closingDigits_concat_other (hc : ¬ isHexDigit c) : closingDigits (cs ++ [c]) = [] :=
  List.rtakeWhile_concat_neg isHexDigit cs c hc

theorem beforeClosing_concat_digit (hc : isHexDigit c) : beforeClosing (cs ++ [c]) = beforeClosing cs :=
  List.rdropWhile_concat_pos isHexDigit cs c hc

theorem beforeClosing_concat_other (hc : ¬ isHexDigit c) : beforeClosing (cs ++ [c]) = cs ++ [c] :=
  List.rdropWhile_concat_neg isHexDigit cs c hc

theorem beforeClosing_append_closingDigits (cs : List Char) : beforeClosing cs ++ closingDigits cs = cs :=
  List.rdropWhile_append_rtakeWhile

theorem isHexDigit_of_mem_closingDigits (h : c ∈ closingDigits cs) : isHexDigit c := List.mem_rtakeWhile_imp h

theorem closingDigits_eq_nil_of_suffix (hc : ¬ isHexDigit c) (h : [c] <:+ cs) : closingDigits cs = [] := by
  obtain ⟨ds, rfl⟩ := h
  exact closingDigits_concat_other hc

theorem ne_nil_of_closing (h : closingDigits cs ≠ []) : cs ≠ [] := by
  rintro rfl
  exact h rfl

theorem not_suffix_of_closing (hc : ¬ isHexDigit c) (h : closingDigits cs ≠ []) : ¬ [c] <:+ cs :=
  mt (closingDigits_eq_nil_of_suffix hc) h

theorem ne_of_isHexDigit (hc : isHexDigit c) (hd : ¬ isHexDigit d) : c ≠ d := by
  rintro rfl
  exact hd hc

theorem digit?_of_isDigit (h : c.isDigit) : ∃ n < 10, Numeral.digit? c = some n := by
  have hwrites : Numeral.Writes 10 c (c.toNat - '0'.toNat) := Numeral.writes_ten_iff.2 ⟨h, rfl⟩
  obtain ⟨hdigit, hlt⟩ := (Numeral.writes_iff (by decide)).1 hwrites
  exact ⟨_, hlt, hdigit⟩

theorem isHexDigit_of_isDigit (h : c.isDigit) : isHexDigit c := by
  obtain ⟨n, _, hdigit⟩ := digit?_of_isDigit h
  exact isHexDigit_iff_digit?.2 ⟨n, hdigit⟩

theorem isDigit_iff_of_digit? {n : Nat} (hc : Numeral.digit? c = some n) : c.isDigit ↔ n < 10 := by
  constructor
  · intro h
    obtain ⟨m, hm, hdigit⟩ := digit?_of_isDigit h
    rw [hc] at hdigit
    exact Option.some.inj hdigit ▸ hm
  · intro hn
    have hwrites : Numeral.Writes 10 c n := (Numeral.writes_iff (by decide)).2 ⟨hc, hn⟩
    exact (Numeral.writes_ten_iff.1 hwrites).1

theorem rtakeWhile_isDigit (h : ∀ c ∈ closingDigits cs, c.isDigit) :
    cs.rtakeWhile Char.isDigit = closingDigits cs := by
  induction cs using List.reverseRecOn with
  | nil => rfl
  | append_singleton cs c ih =>
    by_cases hc : isHexDigit c
    · rw [closingDigits_concat_digit hc, List.forall_mem_append] at h
      have hdigit : c.isDigit := h.2 c List.mem_cons_self
      rw [List.rtakeWhile_concat_pos _ _ _ hdigit, ih h.1, closingDigits_concat_digit hc]
    · rw [List.rtakeWhile_concat_neg _ _ _ (mt isHexDigit_of_isDigit hc), closingDigits_concat_other hc]

theorem utf8Size_of_isHexDigit (hc : isHexDigit c) : c.utf8Size = 1 := by
  obtain ⟨d, hd⟩ := isHexDigit_iff_digit?.1 hc
  have hascii : c.toNat ≤ 127 := by
    rcases Numeral.toNat_of_digit? hd with h | h | h <;> omega
  exact Char.utf8Size_eq_one_iff.2 hascii

theorem utf8Len_digits (h : ∀ c ∈ cs, isHexDigit c) : utf8Len cs = cs.length := by
  induction cs with
  | nil => rfl
  | cons c cs ih =>
    rw [List.forall_mem_cons] at h
    rw [String.utf8Len_cons, ih h.2, utf8Size_of_isHexDigit h.1, List.length_cons]

theorem runStart_add_length (cs : List Char) : runStart cs + (closingDigits cs).length = utf8Len cs := by
  have hdigits : utf8Len (closingDigits cs) = (closingDigits cs).length :=
    utf8Len_digits fun _ => isHexDigit_of_mem_closingDigits
  rw [runStart, ← hdigits, ← String.utf8Len_append, beforeClosing_append_closingDigits]

theorem runStart_of_nil (h : closingDigits cs = []) : runStart cs = utf8Len cs := by
  have hadd := runStart_add_length cs
  rwa [h, List.length_nil, Nat.add_zero] at hadd

theorem runStart_concat_digit (hc : isHexDigit c) : runStart (cs ++ [c]) = runStart cs :=
  congrArg utf8Len (beforeClosing_concat_digit hc)

theorem digitRuns_append_other (hc : ¬ isHexDigit c) : digitRuns (cs ++ c :: ds) = digitRuns cs ++ digitRuns ds := by
  have hsep : (!isHexDigit c) = true := by simpa using hc
  rw [digitRuns, List.splitOnP_append_cons cs ds hsep, List.filter_append]
  rfl

theorem digitRuns_concat_other (hc : ¬ isHexDigit c) : digitRuns (cs ++ [c]) = digitRuns cs :=
  (digitRuns_append_other hc).trans (List.append_nil _)

theorem digitRuns_of_digits (hcs : ∀ c ∈ cs, isHexDigit c) (hne : cs ≠ []) : digitRuns cs = [cs] := by
  rw [digitRuns, List.splitOnP_eq_singleton fun c hc => by simp [hcs c hc]]
  simp [hne]

theorem beforeClosing_eq_nil_or_concat (cs : List Char) :
    beforeClosing cs = [] ∨ ∃ bs b, beforeClosing cs = bs ++ [b] ∧ ¬ isHexDigit b := by
  rcases List.eq_nil_or_concat' (beforeClosing cs) with hnil | ⟨bs, b, hbs⟩
  · exact .inl hnil
  · have hlast (hne : beforeClosing cs ≠ []) : ¬ isHexDigit ((beforeClosing cs).getLast hne) :=
      List.rdropWhile_last_not isHexDigit cs hne
    simp only [hbs, List.getLast_append_singleton] at hlast
    exact .inr ⟨bs, b, hbs, hlast (List.concat_ne_nil b bs)⟩

theorem digitRuns_of_closing (hne : closingDigits cs ≠ []) :
    digitRuns cs = digitRuns (beforeClosing cs) ++ [closingDigits cs] := by
  have hlast := digitRuns_of_digits (fun _ => isHexDigit_of_mem_closingDigits) hne
  have hparts := beforeClosing_append_closingDigits cs
  rcases beforeClosing_eq_nil_or_concat cs with hnil | ⟨bs, b, hbs, hb⟩
  · rw [hnil, List.nil_append] at hparts
    rw [hnil, ← hlast, hparts]
    rfl
  · rw [hbs, ← List.append_cons] at hparts
    rw [hbs, digitRuns_concat_other hb, ← hlast, ← digitRuns_append_other hb, hparts]

theorem digitRuns_of_nil (h : closingDigits cs = []) : digitRuns cs = digitRuns (beforeClosing cs) := by
  have hparts := beforeClosing_append_closingDigits cs
  rw [h, List.append_nil] at hparts
  rw [hparts]

theorem suffix_concat_pair_iff {b : Char} : [b, d] <:+ cs ++ [c] ↔ [b] <:+ cs ∧ d = c := by
  have h : [b] ++ [d] <:+ cs ++ [c] ↔ [b] <:+ cs ∧ [d] = [c] := List.suffix_append_inj_of_length_eq rfl
  rwa [List.singleton_append, List.singleton_inj] at h

theorem infix_concat_pair_iff {b : Char} : [b, d] <:+: cs ++ [c] ↔ ([b] <:+ cs ∧ d = c) ∨ [b, d] <:+: cs := by
  rw [List.infix_concat_iff, suffix_concat_pair_iff]

end Inet
