import Mathlib.Algebra.Order.Field.Power
import Estate.Proofs.Binary64.Rounding

/-!
The order of doubles, and rounding along it.

A code is the power of two of a magnitude and the magnitude in units of that power, put together;
so codes ascend with the magnitudes they stand for, and a greater fraction is never rounded to a
smaller double.
-/

namespace Estate.Binary64

/-- The power of two in whose units a fraction has 53 bits, or the least one. -/
structure Scales (q : ℚ) (e : ℤ) : Prop where
  least : -1074 ≤ e
  below : q < 2 ^ (e + 53)
  above : e = -1074 ∨ 2 ^ (e + 52) ≤ q

/-- The code of the double nearest to a fraction. -/
def Coded (q : ℚ) (code : ℕ) : Prop :=
  ∃ (e : ℤ) (n : ℕ), Scales q e ∧ IsNearest (q / 2 ^ e) n ∧ (code : ℤ) = (e + 1074) * 2 ^ 52 + n

section

variable {q r : ℚ} {e f : ℤ} {n m : ℤ}

lemma two_zpow_le (h : e ≤ f) : (2 : ℚ) ^ e ≤ 2 ^ f := zpow_le_zpow_right₀ (by norm_num) h

lemma two_zpow_add (e : ℤ) (k : ℕ) : (2 : ℚ) ^ (e + k) = 2 ^ e * 2 ^ k := by
  rw [zpow_add₀ two_ne_zero, zpow_natCast]

/-- A greater number is not rounded to a smaller one. -/
lemma IsNearest.mono (hn : IsNearest q n) (hm : IsNearest r m) (h : q ≤ r) : n ≤ m := by
  by_contra! hlt
  have hstep : (m : ℚ) + 1 ≤ n := by exact_mod_cast hlt
  have hlow := (abs_le.1 hn.1).1
  have hhigh := (abs_le.1 hm.1).2
  -- The two are half way between neighbours, so they are equal.
  obtain rfl : q = r := by linarith
  exact absurd (hm.le hn) (not_le.2 hlt)

lemma isNearest_self (n : ℤ) : IsNearest (n : ℚ) n := by
  constructor
  · simp
  · intro h
    rw [sub_self, abs_zero] at h
    norm_num at h

lemma Scales.mono (hq : Scales q e) (hr : Scales r f) (h : q ≤ r) : e ≤ f := by
  by_contra! hlt
  have hleast := hr.least
  rcases hq.above with heq | habove
  · omega
  · have hpow : (2 : ℚ) ^ (f + 53) ≤ 2 ^ (e + 52) := two_zpow_le (by omega)
    have hbelow := hr.below
    linarith

/-- In units of its power of two a fraction has at most 53 bits. -/
lemma Scales.nearest_le (hq : Scales q e) (hn : IsNearest (q / 2 ^ e) n) : n ≤ 2 ^ 53 := by
  have hpos : (0 : ℚ) < 2 ^ e := by positivity
  have hbelow := hq.below
  have hquotient : q / 2 ^ e ≤ ((2 ^ 53 : ℤ) : ℚ) := by
    rw [div_le_iff₀ hpos]
    have hpow := two_zpow_add e 53
    push_cast at hpow ⊢
    linarith
  exact hn.mono (isNearest_self _) hquotient

/-- Above the least power of two it has 53 bits. -/
lemma Scales.le_nearest (hq : Scales q e) (he : e ≠ -1074) (hn : IsNearest (q / 2 ^ e) n) :
    2 ^ 52 ≤ n := by
  have hpos : (0 : ℚ) < 2 ^ e := by positivity
  have habove := hq.above.resolve_left he
  have hquotient : ((2 ^ 52 : ℤ) : ℚ) ≤ q / 2 ^ e := by
    rw [le_div_iff₀ hpos]
    have hpow := two_zpow_add e 52
    push_cast at hpow ⊢
    linarith
  exact (isNearest_self _).mono hn hquotient

/-- Codes ascend with the fractions. -/
lemma Coded.mono {c d : ℕ} (hq : Coded q c) (hr : Coded r d) (h : q ≤ r) : c ≤ d := by
  obtain ⟨e, n, hscale, hnearest, hcode⟩ := hq
  obtain ⟨f, m, hscale', hnearest', hcode'⟩ := hr
  have hexponent : e ≤ f := hscale.mono hscale' h
  have hleast := hscale.least
  rcases hexponent.eq_or_lt with rfl | hlt
  · have hpos : (0 : ℚ) < 2 ^ e := by positivity
    have hunits : q / 2 ^ e ≤ r / 2 ^ e := div_le_div_of_nonneg_right h hpos.le
    have hle : (n : ℤ) ≤ m := hnearest.mono hnearest' hunits
    omega
  · have hhigh : (n : ℤ) ≤ 2 ^ 53 := hscale.nearest_le hnearest
    have hlow : (2 : ℤ) ^ 52 ≤ m := hscale'.le_nearest (by omega) hnearest'
    omega

end

/-! ### Rounding -/

section

variable {num den : ℕ}

lemma two_zpow_sub_mul (n d : ℕ) : (2 : ℚ) ^ ((n : ℤ) - d) * 2 ^ d = 2 ^ n := by
  rw [← zpow_natCast, ← zpow_natCast, ← zpow_add₀ two_ne_zero, Int.sub_add_cancel]

/-- The numbers of bits leave two powers of two for a quotient to lie between. -/
lemma quotient_bounds (hnum : 0 < num) (hden : 0 < den) :
    (2 : ℚ) ^ ((num.log2 : ℤ) - den.log2 - 1) ≤ num / den ∧
      (num : ℚ) / den < 2 ^ ((num.log2 : ℤ) - den.log2 + 1) := by
  have hnumLow : (2 : ℚ) ^ num.log2 ≤ num := by exact_mod_cast Nat.log2_self_le hnum.ne'
  have hnumHigh : (num : ℚ) < 2 ^ (num.log2 + 1) := by
    exact_mod_cast Nat.lt_log2_self (n := num)
  have hdenLow : (2 : ℚ) ^ den.log2 ≤ den := by exact_mod_cast Nat.log2_self_le hden.ne'
  have hdenHigh : (den : ℚ) < 2 ^ (den.log2 + 1) := by
    exact_mod_cast Nat.lt_log2_self (n := den)
  have hpos : (0 : ℚ) < den := by exact_mod_cast hden
  constructor
  · rw [le_div_iff₀ hpos,
      show (num.log2 : ℤ) - den.log2 - 1 = num.log2 - (den.log2 + 1 : ℕ) by omega]
    calc (2 : ℚ) ^ ((num.log2 : ℤ) - (den.log2 + 1 : ℕ)) * den
        ≤ 2 ^ ((num.log2 : ℤ) - (den.log2 + 1 : ℕ)) * 2 ^ (den.log2 + 1) := by gcongr
      _ = 2 ^ num.log2 := two_zpow_sub_mul _ _
      _ ≤ num := hnumLow
  · rw [div_lt_iff₀ hpos,
      show (num.log2 : ℤ) - den.log2 + 1 = (num.log2 + 1 : ℕ) - den.log2 by omega]
    calc (num : ℚ) < 2 ^ (num.log2 + 1) := hnumHigh
      _ = 2 ^ (((num.log2 + 1 : ℕ) : ℤ) - den.log2) * 2 ^ den.log2 := (two_zpow_sub_mul _ _).symm
      _ ≤ 2 ^ (((num.log2 + 1 : ℕ) : ℤ) - den.log2) * den := by gcongr

/-- A fraction in units of a power of two, by whole numbers. -/
lemma quotient_units (num den : ℕ) (e : ℤ) :
    ((num * 2 ^ (-e).toNat : ℕ) : ℚ) / ((den * 2 ^ e.toNat : ℕ) : ℚ) = num / den / 2 ^ e := by
  rw [zpow_eq_fraction]
  push_cast
  rw [div_div_eq_mul_div, div_mul_eq_mul_div, div_div]

/-- Whether a fraction has fewer than 53 bits in these units, by whole numbers. -/
lemma units_lt_iff (hden : 0 < den) (e : ℤ) :
    num * 2 ^ (-e).toNat < 2 ^ 52 * (den * 2 ^ e.toNat) ↔ (num : ℚ) / den < 2 ^ (e + 52) := by
  have hpos : (0 : ℚ) < ((den * 2 ^ e.toNat : ℕ) : ℚ) := by positivity
  have hunit : (0 : ℚ) < 2 ^ e := by positivity
  have hpow := two_zpow_add e 52
  push_cast at hpow
  rw [hpow, mul_comm ((2 : ℚ) ^ e), ← div_lt_iff₀ hunit, ← quotient_units, div_lt_iff₀ hpos]
  norm_cast

lemma scales_scaleFor (hnum : 0 < num) (hden : 0 < den) :
    Scales (num / den) (scaleFor num den) := by
  obtain ⟨hlow, hhigh⟩ := quotient_bounds hnum hden
  unfold scaleFor
  dsimp only
  generalize hguess : (num.log2 : ℤ) - den.log2 - 52 = guess
  have hlow' : (2 : ℚ) ^ (guess + 51) ≤ num / den := by
    rwa [show guess + 51 = (num.log2 : ℤ) - den.log2 - 1 by omega]
  have hhigh' : (num : ℚ) / den < 2 ^ (guess + 53) := by
    rwa [show guess + 53 = (num.log2 : ℤ) - den.log2 + 1 by omega]
  -- The guess is the exponent or one too great.
  obtain ⟨e, he, hbelow, habove⟩ : ∃ e : ℤ, (if num * 2 ^ (-guess).toNat <
      2 ^ 52 * (den * 2 ^ guess.toNat) then guess - 1 else guess) = e ∧
      (num : ℚ) / den < 2 ^ (e + 53) ∧ (2 : ℚ) ^ (e + 52) ≤ num / den := by
    split
    · next h =>
      refine ⟨guess - 1, rfl, ?_, ?_⟩
      · rw [show guess - 1 + 53 = guess + 52 by omega]
        exact (units_lt_iff hden guess).1 h
      · rwa [show guess - 1 + 52 = guess + 51 by omega]
    · next h =>
      exact ⟨guess, rfl, hhigh', not_lt.1 fun hlt => h ((units_lt_iff hden guess).2 hlt)⟩
  rw [he]
  rcases le_or_gt (-1074) e with hle | hlt
  · rw [max_eq_left hle]
    exact ⟨hle, hbelow, .inr habove⟩
  · rw [max_eq_right hlt.le]
    exact ⟨le_rfl, hbelow.trans_le (two_zpow_le (by omega)), .inl rfl⟩

/-- Rounding gives the code of the nearest double. -/
lemma coded_roundedCode (num : ℕ) (hden : 0 < den) : Coded (num / den) (roundedCode num den) := by
  rcases Nat.eq_zero_or_pos num with rfl | hnum
  · refine ⟨-1074, 0, ⟨le_rfl, ?_, .inl rfl⟩, ?_, by simp [roundedCode]⟩
    · rw [Nat.cast_zero, zero_div]
      positivity
    · simpa using isNearest_self 0
  · have hscale := scales_scaleFor hnum hden
    have hleast := hscale.least
    unfold roundedCode
    have hne : (num == 0) = false := beq_eq_false_iff_ne.2 hnum.ne'
    rw [hne, if_neg Bool.false_ne_true]
    dsimp only
    generalize scaleFor num den = e at hscale hleast ⊢
    have hunit : 0 < den * 2 ^ e.toNat := Nat.mul_pos hden (Nat.two_pow_pos _)
    have hnearest := isNearest_roundHalfEven (num * 2 ^ (-e).toNat) hunit
    rw [quotient_units] at hnearest
    refine ⟨e, _, hscale, hnearest, ?_⟩
    push_cast
    rw [Int.toNat_of_nonneg (by omega)]

end

/-! ### Magnitudes -/

/-- The distance from zero. -/
def absValue (x : Binary64) : ℚ := x.significand * 2 ^ x.exponent

lemma absValue_eq_fraction (x : Binary64) : x.absValue = x.fraction.1 / x.fraction.2 := by
  rw [absValue, zpow_eq_fraction, fraction]
  push_cast
  ring

lemma significand_lt (x : Binary64) : x.significand < 2 ^ 53 := by
  have hlimit : x.code.val < 2047 * 2 ^ 52 := x.code.isLt
  unfold significand
  split <;> omega

lemma le_significand {x : Binary64} (h : ¬ x.code.val < 2 ^ 52) : 2 ^ 52 ≤ x.significand := by
  rw [significand, if_neg h]
  exact Nat.le_add_right _ _

lemma scales_absValue (x : Binary64) : Scales x.absValue x.exponent := by
  have hpow : ∀ k : ℕ, (2 : ℚ) ^ (x.exponent + k) = 2 ^ k * 2 ^ x.exponent := fun k => by
    rw [two_zpow_add, mul_comm]
  refine ⟨?_, ?_, ?_⟩
  · unfold exponent
    split <;> omega
  · have hpow53 := hpow 53
    have hbits : (x.significand : ℚ) < 2 ^ 53 := by exact_mod_cast x.significand_lt
    rw [absValue]
    push_cast at hpow53
    rw [hpow53]
    gcongr
  · by_cases hcode : x.code.val < 2 ^ 52
    · exact .inl (if_pos hcode)
    · have hpow52 := hpow 52
      have hbits : (2 : ℚ) ^ 52 ≤ x.significand := by exact_mod_cast le_significand hcode
      rw [absValue]
      push_cast at hpow52
      rw [hpow52]
      exact .inr (by gcongr)

lemma coded_absValue (x : Binary64) : Coded x.absValue x.code := by
  have hunit : (2 : ℚ) ^ x.exponent ≠ 0 := by positivity
  refine ⟨x.exponent, x.significand, scales_absValue x, ?_, ?_⟩
  · rw [absValue, mul_div_cancel_right₀ _ hunit]
    exact isNearest_self x.significand
  · unfold significand exponent
    split <;> omega

lemma code_le_of_absValue {x y : Binary64} (h : x.absValue ≤ y.absValue) : x.code ≤ y.code :=
  (coded_absValue x).mono (coded_absValue y) h

lemma absValue_le_of_code {x y : Binary64} (h : x.code ≤ y.code) : x.absValue ≤ y.absValue := by
  by_contra! hlt
  have hcode : x.code = y.code := le_antisymm h (code_le_of_absValue hlt.le)
  have heq : x.absValue = y.absValue := by
    rw [absValue, absValue, significand, significand, exponent, exponent, hcode]
  exact hlt.ne' heq

lemma le_iff_code {x y : Binary64} (hx : x.negative = false) (hy : y.negative = false) :
    x.le y ↔ x.code ≤ y.code := by
  rw [le, rank, rank, hx, hy, decide_eq_true_eq, if_neg Bool.false_ne_true,
    if_neg Bool.false_ne_true]
  exact Int.ofNat_le

lemma le_of_le_of_le {x y z : Binary64} (h : x.le y) (h' : y.le z) : x.le z := by
  simp only [le, decide_eq_true_eq] at h h' ⊢
  omega

/-! ### Operations -/

section

variable {a b c d : ℕ} {s : Bool}

/-- A fraction that is no greater is rounded to a double that is no greater. -/
lemma ofFraction?_mono (hb : 0 < b) (hd : 0 < d) (h : (a : ℚ) / b ≤ c / d) {y : Binary64}
    (hy : ofFraction? s c d = some y) : ∃ x, ofFraction? s a b = some x ∧ x.code ≤ y.code := by
  have hcode : roundedCode a b ≤ roundedCode c d :=
    (coded_roundedCode a hb).mono (coded_roundedCode c hd) h
  unfold ofFraction? at hy
  dsimp only at hy
  split at hy
  · next hlimit =>
    cases hy
    exact ⟨_, dif_pos (hcode.trans_lt hlimit), hcode⟩
  · cases hy

lemma negative_ofFraction? {y : Binary64} (hy : ofFraction? s c d = some y) : y.negative = s := by
  unfold ofFraction? at hy
  dsimp only at hy
  split at hy
  · cases hy
    rfl
  · cases hy

end

/-- The sum of numbers that are not negative is that of their magnitudes, rounded. -/
lemma add?_of_nonneg {x y : Binary64} (hx : x.negative = false) (hy : y.negative = false) :
    x.add? y = ofFraction? false
      (x.fraction.1 * y.fraction.2 + y.fraction.1 * x.fraction.2)
      (x.fraction.2 * y.fraction.2) := by
  have hsign : ¬ ((x.fraction.1 : ℤ) * y.fraction.2 + y.fraction.1 * x.fraction.2 < 0) :=
    not_lt.2 (by positivity)
  have habs : ((x.fraction.1 : ℤ) * y.fraction.2 + y.fraction.1 * x.fraction.2).natAbs =
      x.fraction.1 * y.fraction.2 + y.fraction.1 * x.fraction.2 := by
    norm_cast
  simp only [add?, ratio, hx, hy, Bool.false_eq_true, if_false, ofRatio?, habs]
  rw [decide_eq_false hsign]

lemma quotient_add (x y : Binary64) :
    ((x.fraction.1 * y.fraction.2 + y.fraction.1 * x.fraction.2 : ℕ) : ℚ) /
      ((x.fraction.2 * y.fraction.2 : ℕ) : ℚ) = x.absValue + y.absValue := by
  have hx : (x.fraction.2 : ℚ) ≠ 0 := by
    exact_mod_cast (Nat.two_pow_pos (-x.exponent).toNat).ne'
  have hy : (y.fraction.2 : ℚ) ≠ 0 := by
    exact_mod_cast (Nat.two_pow_pos (-y.exponent).toNat).ne'
  rw [absValue_eq_fraction, absValue_eq_fraction, div_add_div _ _ hx hy]
  push_cast
  ring

/-- What is added to a number that is no greater gives no greater sum. -/
lemma add?_mono {x y z w : Binary64} (hx : x.negative = false) (hy : y.negative = false)
    (hz : z.negative = false) (h : x.code ≤ y.code) (hw : y.add? z = some w) :
    ∃ v, x.add? z = some v ∧ v.le w := by
  have hpos : ∀ u v : Binary64, 0 < u.fraction.2 * v.fraction.2 := fun u v =>
    Nat.mul_pos (Nat.two_pow_pos _) (Nat.two_pow_pos _)
  rw [add?_of_nonneg hy hz] at hw
  rw [add?_of_nonneg hx hz]
  have hsum : x.absValue + z.absValue ≤ y.absValue + z.absValue :=
    add_le_add_left (absValue_le_of_code h) _
  rw [← quotient_add, ← quotient_add] at hsum
  obtain ⟨v, hv, hcode⟩ := ofFraction?_mono (hpos x z) (hpos y z) hsum hw
  exact ⟨v, hv, (le_iff_code (negative_ofFraction? hv) (negative_ofFraction? hw)).2 hcode⟩

end Estate.Binary64
