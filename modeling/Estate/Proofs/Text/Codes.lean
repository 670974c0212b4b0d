import Mathlib.Data.Nat.Bitwise
import Mathlib.Tactic.Tauto
import Estate.Text.Integer

/-!
Tables over code points gone through once: a set of codes as the bits of a number, held against the
runs of a table, and two tables held against each other.
-/

namespace Estate.Text

variable {α β : Type}

lemma Runs.at_mem (a : α) (runs : Runs α) (n : Nat) :
    runs.at a n = a ∨ ∃ start, (start, runs.at a n) ∈ runs := by
  induction runs generalizing a with
  | nil => exact .inl rfl
  | cons run runs ih =>
    obtain ⟨start, b⟩ := run
    rw [Runs.at]
    split
    · exact .inl rfl
    · refine .inr ?_
      rcases ih b with h | ⟨other, h⟩
      · exact ⟨start, by rw [h]; simp⟩
      · exact ⟨other, List.mem_cons_of_mem _ h⟩

lemma lookup_eq_none {table : List (Nat × α)} {n : Nat} (h : n ∉ table.map (·.1)) :
    table.lookup n = none := by
  rw [List.lookup_eq_none_iff]
  rintro ⟨m, a⟩ hmem
  rw [bne_iff_ne]
  rintro rfl
  exact h (List.mem_map_of_mem hmem)

/-! ### Sets of codes -/

/-- The number with a bit for each code. -/
def bitsOf (codes : List Nat) : Nat := codes.foldr (fun n bits => bits ||| 2 ^ n) 0

lemma testBit_bitsOf {codes : List Nat} {n : Nat} : (bitsOf codes).testBit n ↔ n ∈ codes := by
  induction codes with
  | nil => simp [bitsOf]
  | cons m codes ih =>
    rw [bitsOf, List.foldr_cons, ← bitsOf, Nat.testBit_or, Bool.or_eq_true, ih,
      Nat.testBit_two_pow, decide_eq_true_eq, List.mem_cons]
    tauto

/-- No code of a set, from a start on, has by its run a value that is marked; before the next run it
has `a`. -/
def Runs.avoids (bits : Nat) (marked : α → Bool) (a : α) (start : Nat) : Runs α → Bool
  | [] => !marked a || bits >>> start == 0
  | (next, b) :: rest =>
    (!marked a || (bits >>> start) % 2 ^ (next - start) == 0) &&
      Runs.avoids bits marked b next rest

lemma Runs.not_testBit {runs : Runs α} {bits start n : Nat} {marked : α → Bool} {a : α}
    (h : runs.avoids bits marked a start) (hstart : start ≤ n) (hmarked : marked (runs.at a n)) :
    bits.testBit n = false := by
  have hshift : bits.testBit n = (bits >>> start).testBit (n - start) := by
    rw [Nat.testBit_shiftRight, Nat.add_sub_cancel' hstart]
  induction runs generalizing a start with
  | nil =>
    have hzero : bits >>> start = 0 := by
      simpa [Runs.avoids, show marked a from hmarked] using h
    rw [hshift, hzero, Nat.zero_testBit]
  | cons run runs ih =>
    obtain ⟨next, b⟩ := run
    obtain ⟨hhere, hrest⟩ := Bool.and_eq_true_iff.1 h
    rw [Runs.at] at hmarked
    split at hmarked
    · next hlt =>
      have hzero : (bits >>> start) % 2 ^ (next - start) = 0 := by simpa [hmarked] using hhere
      have hbit := Nat.testBit_mod_two_pow (bits >>> start) (next - start) (n - start)
      rw [hzero, Nat.zero_testBit, decide_eq_true (by omega), Bool.true_and] at hbit
      rw [hshift, ← hbit]
    · next hge =>
      exact ih hrest (by omega) hmarked (by rw [Nat.testBit_shiftRight]; congr 1; omega)

/-! ### Two tables -/

/-- The values that a code has by two tables go together, whichever code it is; before the first
runs it has `a` and `b`. The number bounds the runs of both. -/
def Runs.together (fits : α → β → Bool) : Nat → α → β → Runs α → Runs β → Bool
  | 0, _, _, _, _ => false
  | _ + 1, a, b, [], [] => fits a b
  | fuel + 1, a, b, (_, a') :: as, [] => fits a b && together fits fuel a' b as []
  | fuel + 1, a, b, [], (_, b') :: bs => fits a b && together fits fuel a b' [] bs
  | fuel + 1, a, b, (s, a') :: as, (t, b') :: bs =>
    fits a b &&
      if s < t then together fits fuel a' b as ((t, b') :: bs)
      else if t < s then together fits fuel a b' ((s, a') :: as) bs
      else together fits fuel a' b' as bs

lemma Runs.at_cons (a b : α) (start : Nat) (runs : Runs α) (n : Nat) :
    Runs.at a ((start, b) :: runs) n = if n < start then a else runs.at b n := rfl

lemma Runs.fits_of_together {fits : α → β → Bool} {fuel : Nat} {a : α} {b : β} {as : Runs α}
    {bs : Runs β} (h : together fits fuel a b as bs) (n : Nat) :
    fits (as.at a n) (bs.at b n) := by
  induction fuel generalizing a b as bs with
  | zero => cases h
  | succ fuel ih =>
    match as, bs with
    | [], [] => exact h
    | (s, a') :: as, [] =>
      obtain ⟨hhere, hrest⟩ := Bool.and_eq_true_iff.1 h
      rw [at_cons]
      split_ifs
      · exact hhere
      · exact ih hrest
    | [], (t, b') :: bs =>
      obtain ⟨hhere, hrest⟩ := Bool.and_eq_true_iff.1 h
      rw [at_cons]
      split_ifs
      · exact hhere
      · exact ih hrest
    | (s, a') :: as, (t, b') :: bs =>
      obtain ⟨hhere, hrest⟩ := Bool.and_eq_true_iff.1 h
      by_cases hn : n < s ∧ n < t
      · rw [at_cons, at_cons, if_pos hn.1, if_pos hn.2]
        exact hhere
      -- The run that starts first has started; the code may be before the other one.
      split_ifs at hrest with hst hts
      · rw [at_cons a, if_neg (by omega)]
        exact ih hrest
      · rw [at_cons b, if_neg (by omega)]
        exact ih hrest
      · rw [at_cons, at_cons, if_neg (by omega), if_neg (by omega)]
        exact ih hrest

end Estate.Text
