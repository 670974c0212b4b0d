import Mathlib.Tactic.Lemma
import Estate.Binary64.Text
import Estate.Proofs.Json.PrintedNumber
import Estate.Proofs.Text.Cutting

/-!
Whole numbers of at most 53 bits are doubles, and their digits are read as such.
-/

namespace Estate.Binary64

lemma roundHalfEven_one (n : Nat) : roundHalfEven n 1 = n := by
  simp [roundHalfEven, Nat.mod_one]

lemma toInt?_neg {x : Binary64} {n : Int} (h : x.toInt? = some n) : x.neg.toInt? = some (-n) := by
  have hfraction : x.neg.fraction = x.fraction := rfl
  have hnegative : x.neg.negative = !x.negative := rfl
  unfold toInt? at h ⊢
  rw [hfraction, hnegative]
  dsimp only at h ⊢
  split at h
  · next hwhole =>
    rw [if_pos hwhole]
    cases h
    cases x.negative <;> simp
  · cases h

section

variable {n k : Nat}

lemma log2_eq (hlow : 2 ^ k ≤ n) (hhigh : n < 2 ^ (k + 1)) : n.log2 = k := by
  have hpos := Nat.two_pow_pos k
  exact (Nat.log2_eq_iff (by omega)).2 ⟨hlow, hhigh⟩

/-- A number of at most 53 bits, shifted up so that it has 53. -/
lemma shifted_bounds (hlow : 2 ^ k ≤ n) (hhigh : n < 2 ^ (k + 1)) (hk : k ≤ 52) :
    2 ^ 52 ≤ n * 2 ^ (52 - k) ∧ n * 2 ^ (52 - k) < 2 ^ 53 := by
  have hl := Nat.mul_le_mul_right (2 ^ (52 - k)) hlow
  have hh := Nat.mul_lt_mul_of_pos_right hhigh (Nat.two_pow_pos (52 - k))
  rw [← Nat.pow_add] at hl hh
  have h52 : k + (52 - k) = 52 := by omega
  have h53 : k + 1 + (52 - k) = 53 := by omega
  rw [h52] at hl
  rw [h53] at hh
  exact ⟨hl, hh⟩

lemma scaleFor_whole (hlow : 2 ^ k ≤ n) (hhigh : n < 2 ^ (k + 1)) (hk : k ≤ 52) :
    scaleFor n 1 = k - 52 := by
  have hbound := (shifted_bounds hlow hhigh hk).1
  have hup : (-((k : Int) - 52)).toNat = 52 - k := by omega
  have hdown : ((k : Int) - 52).toNat = 0 := by omega
  have hguess : (n.log2 : Int) - Nat.log2 1 - 52 = k - 52 := by
    have hone : Nat.log2 1 = 0 := by decide
    rw [log2_eq hlow hhigh, hone]
    omega
  unfold scaleFor
  dsimp only
  rw [hguess, hup, hdown, if_neg (by omega)]
  omega

/-- The code of a shifted number: its exponent above its bits but for the first. -/
lemma roundedCode_whole (hlow : 2 ^ k ≤ n) (hhigh : n < 2 ^ (k + 1)) (hk : k ≤ 52) :
    roundedCode n 1 = (k + 1022) * 2 ^ 52 + n * 2 ^ (52 - k) := by
  have hpos := Nat.two_pow_pos k
  have hne : (n == 0) = false := beq_eq_false_iff_ne.2 (by omega)
  have hexp : ((k : Int) - 52 + 1074).toNat = k + 1022 := by omega
  have hup : (-((k : Int) - 52)).toNat = 52 - k := by omega
  have hdown : ((k : Int) - 52).toNat = 0 := by omega
  unfold roundedCode
  rw [hne, if_neg Bool.false_ne_true]
  dsimp only
  rw [scaleFor_whole hlow hhigh hk, hexp, hup, hdown, Nat.pow_zero, Nat.mul_one,
    roundHalfEven_one]

/-- A code of an exponent and a significand stands for the significand scaled. -/
lemma fraction_of_code {x : Binary64} {m : Nat} (hcode : x.code.val = (k + 1022) * 2 ^ 52 + m)
    (hlow : 2 ^ 52 ≤ m) (hhigh : m < 2 ^ 53) (hk : k ≤ 52) : x.fraction = (m, 2 ^ (52 - k)) := by
  have hsignificand : x.significand = m := by
    unfold significand
    rw [if_neg (by omega)]
    omega
  have hexponent : x.exponent = k - 52 := by
    unfold exponent
    rw [if_neg (by omega)]
    omega
  have hup : (-((k : Int) - 52)).toNat = 52 - k := by omega
  have hdown : ((k : Int) - 52).toNat = 0 := by omega
  rw [fraction, hsignificand, hexponent, hup, hdown, Nat.pow_zero, Nat.mul_one]

end

/-- The double nearest to a whole number of at most 53 bits is the number. -/
theorem ofFraction?_whole {n : Nat} (h : n ≤ 2 ^ 53) :
    ∃ x, ofFraction? false n 1 = some x ∧ x.toInt? = some (n : Int) := by
  rcases Nat.eq_zero_or_pos n with rfl | hpos
  · exact ⟨zero, rfl, by simp [toInt?, fraction, significand, zero]⟩
  rcases Nat.lt_or_eq_of_le h with hlt | rfl
  · have hk : n.log2 ≤ 52 := Nat.lt_succ_iff.1 ((Nat.log2_lt (by omega)).2 hlt)
    have hlow : 2 ^ n.log2 ≤ n := Nat.log2_self_le (by omega)
    obtain ⟨hm, hm'⟩ := shifted_bounds hlow Nat.lt_log2_self hk
    have hcode := roundedCode_whole hlow Nat.lt_log2_self hk
    have hlimit : roundedCode n 1 < codeLimit := by
      rw [hcode, codeLimit]
      omega
    refine ⟨⟨false, ⟨roundedCode n 1, hlimit⟩⟩, dif_pos hlimit, ?_⟩
    unfold toInt?
    rw [fraction_of_code hcode hm hm' hk]
    dsimp only
    rw [Nat.mul_mod_left, Nat.mul_div_cancel _ (Nat.two_pow_pos _)]
    rfl
  · exact ⟨⟨false, ⟨1076 * 2 ^ 52, by decide⟩⟩, rfl, rfl⟩

/-! ### Digits -/

/-- Digits without a superfluous zero are no more than the size of their number tells. -/
lemma length_le_of_numeral {ds : List Char} (h : Json.Numeral ds)
    (hvalue : Text.digitsValue ds ≤ 2 ^ 53) : ds.length ≤ 16 := by
  obtain ⟨hne, hdigits, hlean⟩ := h
  cases ds with
  | nil => exact absurd rfl hne
  | cons d ds =>
    rcases hlean with hlength | hzero
    · omega
    · have hd : 1 ≤ d.toNat - 48 := by
        have hdigit := hdigits d (by simp)
        have hne : d.toNat ≠ 48 := by
          intro heq
          refine hzero ?_
          rw [List.head?_cons, ← Char.ofNat_toNat d, heq]
        have hlow : 48 ≤ d.toNat := (Text.toNat_between hdigit).1
        omega
      have hpow : 1 * 10 ^ ds.length ≤ Text.digitsValue (d :: ds) := by
        refine Nat.le_trans (Nat.mul_le_mul_right _ hd) ?_
        rw [Text.digitsValue, List.foldl_cons, Nat.zero_mul, Nat.zero_add, Text.foldl_digits]
        exact Nat.le_add_right _ _
      by_contra hlong
      rw [List.length_cons] at hlong
      have hmono : 10 ^ 16 ≤ 10 ^ ds.length := Nat.pow_le_pow_right (by decide) (by omega)
      omega

lemma literal?_digits {ds : List Char} (hne : ds ≠ []) (h : ∀ c ∈ ds, Text.isAsciiDigit c) :
    literal? ds = some ⟨false, ds, [], 0⟩ := by
  unfold literal?
  split
  next negative body hbody =>
  split at hbody
  · exact absurd (h '-' (by simp)) (by decide)
  · exact absurd (h '+' (by simp)) (by decide)
  · cases hbody
    simp [Json.spanDigits_digits h, hne]

/-- The digits of a whole number of at most 53 bits are read as the double nearest to it. -/
theorem literal?_whole {ds : List Char} (h : Json.Numeral ds)
    (hvalue : Text.digitsValue ds ≤ 2 ^ 53) :
    (literal? ds).bind Literal.toBinary64? = ofFraction? false (Text.digitsValue ds) 1 := by
  have hlength := length_le_of_numeral h hvalue
  obtain ⟨hne, hdigits, hlean⟩ := h
  by_cases hzero : ds.head? = some '0'
  · have hds : ds = ['0'] := by
      cases ds with
      | nil => cases hzero
      | cons d ds =>
        cases hzero
        rcases hlean with hlean | hlean
        · rw [List.length_cons, Nat.add_eq_right] at hlean
          rw [List.length_eq_zero_iff.1 hlean]
        · exact absurd rfl hlean
    subst hds
    rfl
  · have hdrop : (ds ++ []).dropWhile (· == '0') = ds := by
      cases ds with
      | nil => rfl
      | cons d ds =>
        rw [List.append_nil, List.dropWhile_cons_of_neg]
        rintro hd
        rw [beq_iff_eq.1 hd] at hzero
        exact hzero rfl
    rw [literal?_digits hne hdigits, Option.bind_some, Literal.toBinary64?]
    dsimp only
    rw [hdrop, List.length_nil]
    by_cases hn : Text.digitsValue ds = 0
    · have hnone : some zero = ofFraction? false 0 1 := rfl
      rw [hn, ← hnone]
      rfl
    · have hsmall : ¬ (Text.digitsValue ds == 0 ||
          decide ((0 : Int) - (0 : Nat) + ds.length < -400)) = true := by
        rw [Bool.or_eq_true, beq_iff_eq, decide_eq_true_eq]
        omega
      rw [if_neg hsmall, if_neg (by omega)]
      simp

end Estate.Binary64
