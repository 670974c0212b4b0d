import Mathlib.Algebra.Order.Field.Basic
import Mathlib.Data.Rat.Cast.Order
import Mathlib.Tactic.FieldSimp
import Mathlib.Tactic.Lemma
import Mathlib.Tactic.Linarith
import Mathlib.Tactic.Positivity
import Mathlib.Tactic.Ring
import Estate.Binary64.Text

/-!
The exact values of doubles, and their rounding to a number of places, a half going to the even
neighbour.
-/

namespace Estate.Binary64

/-- The exact value. -/
def value (x : Binary64) : ℚ := (if x.negative then -1 else 1) * (x.significand * 2 ^ x.exponent)

/-- The integer nearest to a number; of two that are equally near, the even one. -/
def IsNearest (q : ℚ) (n : ℤ) : Prop := |q - n| ≤ 1 / 2 ∧ (|q - n| = 1 / 2 → Even n)

/-- The value rounded to a number of places behind the point, in units of the last one. -/
def Rounds (places : ℕ) (x : Binary64) (n : ℤ) : Prop := IsNearest (x.value * 10 ^ places) n

section

variable {q : ℚ} {n m : ℤ}

lemma IsNearest.le (hn : IsNearest q n) (hm : IsNearest q m) : m ≤ n := by
  by_contra! h
  obtain ⟨hn, hneven⟩ := hn
  obtain ⟨hm, hmeven⟩ := hm
  have hstep : (n : ℚ) + 1 ≤ m := by exact_mod_cast h
  have hlow := (abs_le.1 hn).2
  have hhigh := (abs_le.1 hm).1
  -- The two are neighbours with the number half way between them, and not both even.
  have hq : q = n + 1 / 2 := by linarith
  have hnext : m = n + 1 := by
    have hcast : (m : ℚ) = n + 1 := by linarith
    exact_mod_cast hcast
  have heven : Even n := hneven (by rw [hq]; norm_num)
  have heven' : Even (n + 1) := hnext ▸ hmeven (by rw [hq, hnext]; push_cast; norm_num)
  exact Int.even_add_one.1 heven' heven

lemma IsNearest.unique (hn : IsNearest q n) (hm : IsNearest q m) : n = m :=
  le_antisymm (hm.le hn) (hn.le hm)

lemma IsNearest.neg (h : IsNearest q n) : IsNearest (-q) (-n) := by
  have hdist : |(-q) - ((-n : ℤ) : ℚ)| = |q - n| := by
    rw [← abs_neg]
    congr 1
    push_cast
    ring
  rw [IsNearest, hdist]
  exact ⟨h.1, fun heq => (h.2 heq).neg⟩

end

/-- A whole number and a remainder are rounded by comparing the remainder to a half. -/
lemma isNearest_parts {k r den : ℕ} (hr : r < den) :
    IsNearest (k + r / den)
      (if 2 * r < den || (2 * r == den && k % 2 == 0) then k else k + 1 : ℕ) := by
  have hden : (0 : ℚ) < den := by exact_mod_cast Nat.zero_lt_of_lt hr
  have hpos : (0 : ℚ) ≤ r / den := by positivity
  have hbelow : 2 * r ≤ den → (r : ℚ) / den ≤ 1 / 2 := fun hle => by
    rw [div_le_div_iff₀ hden two_pos]
    exact_mod_cast (by omega : r * 2 ≤ 1 * den)
  have habove : den ≤ 2 * r → (1 : ℚ) / 2 ≤ r / den := fun hle => by
    rw [div_le_div_iff₀ two_pos hden]
    exact_mod_cast (by omega : 1 * den ≤ r * 2)
  have hlt : (r : ℚ) / den < 1 := by
    rw [div_lt_one hden]
    exact_mod_cast hr
  have htie : (r : ℚ) / den = 1 / 2 → 2 * r = den := fun heq => by
    rw [div_eq_div_iff hden.ne' two_ne_zero] at heq
    have hnat : r * 2 = 1 * den := by exact_mod_cast heq
    omega
  split
  · next hdown =>
    simp only [Bool.or_eq_true, Bool.and_eq_true, decide_eq_true_eq, beq_iff_eq] at hdown
    rw [IsNearest, Int.cast_natCast, add_sub_cancel_left, abs_of_nonneg hpos]
    refine ⟨hbelow (by omega), fun heq => ?_⟩
    have hhalf := htie heq
    rw [Int.even_coe_nat, Nat.even_iff]
    omega
  · next hup =>
    simp only [Bool.or_eq_true, Bool.and_eq_true, decide_eq_true_eq, beq_iff_eq] at hup
    have hdist : |(k : ℚ) + r / den - ((k + 1 : ℕ) : ℤ)| = 1 - r / den := by
      rw [abs_sub_comm, abs_of_nonneg] <;> push_cast <;> linarith
    have hge := habove (by omega)
    rw [IsNearest, hdist]
    refine ⟨by linarith, fun heq => ?_⟩
    have hhalf := htie (by linarith)
    rw [Int.even_coe_nat, Nat.even_iff]
    omega

lemma isNearest_roundHalfEven (num : ℕ) {den : ℕ} (h : 0 < den) :
    IsNearest (num / den) (roundHalfEven num den) := by
  have hden : (den : ℚ) ≠ 0 := by exact_mod_cast h.ne'
  have hsplit : (num : ℚ) = den * (num / den : ℕ) + (num % den : ℕ) := by
    exact_mod_cast (Nat.div_add_mod num den).symm
  have hparts : (num : ℚ) / den = (num / den : ℕ) + (num % den : ℕ) / den := by
    rw [hsplit, add_div, mul_div_cancel_left₀ _ hden]
  rw [hparts]
  exact isNearest_parts (Nat.mod_lt num h)

lemma zpow_eq_fraction (e : ℤ) :
    (2 : ℚ) ^ e = ((2 ^ e.toNat : ℕ) : ℚ) / ((2 ^ (-e).toNat : ℕ) : ℚ) := by
  rcases Int.le_total 0 e with h | h
  · obtain ⟨k, rfl⟩ := Int.eq_ofNat_of_zero_le h
    have hzero : (-(k : ℤ)).toNat = 0 := by omega
    rw [hzero, Int.toNat_natCast, zpow_natCast]
    push_cast
    simp
  · obtain ⟨k, hk⟩ := Int.eq_ofNat_of_zero_le (Int.neg_nonneg_of_nonpos h)
    have hzero : e.toNat = 0 := by omega
    rw [hzero, hk, Int.toNat_natCast, ← Int.neg_neg e, hk, zpow_neg, zpow_natCast]
    push_cast
    simp

lemma value_eq_fraction (x : Binary64) :
    x.value = (if x.negative then -1 else 1) * (x.fraction.1 / x.fraction.2) := by
  rw [value, zpow_eq_fraction, fraction]
  push_cast
  ring

/-- The magnitude with so many places, in units of the last one. -/
def units (places : ℕ) (x : Binary64) : ℕ := roundHalfEven (x.fraction.1 * 10 ^ places) x.fraction.2

/-- The number with so many places, in units of the last one. -/
def fixed (places : ℕ) (x : Binary64) : ℤ := (if x.negative then -1 else 1) * x.units places

/-- The number with so many places is what the value is rounded to. -/
lemma rounds_fixed (places : ℕ) (x : Binary64) : Rounds places x (x.fixed places) := by
  have hden : 0 < x.fraction.2 := Nat.two_pow_pos _
  have hnearest := isNearest_roundHalfEven (x.fraction.1 * 10 ^ places) hden
  have hscaled : ((x.fraction.1 * 10 ^ places : ℕ) : ℚ) / x.fraction.2 =
      x.fraction.1 / x.fraction.2 * 10 ^ places := by
    push_cast
    ring
  rw [hscaled] at hnearest
  rw [Rounds, value_eq_fraction, fixed, units]
  cases x.negative with
  | false => simpa using hnearest
  | true => simpa using hnearest.neg

lemma rounds_iff {places : ℕ} {x : Binary64} {n : ℤ} :
    Rounds places x n ↔ n = x.fixed places := by
  constructor
  · intro h
    exact h.unique (rounds_fixed places x)
  · rintro rfl
    exact rounds_fixed places x

end Estate.Binary64
