import Mathlib.Algebra.Order.Floor.Ring
import Mathlib.Data.Rat.Floor
import Mathlib.Tactic.FieldSimp
import Mathlib.Tactic.Linarith
import Mathlib.Tactic.Lemma
import Mathlib.Tactic.Ring
import Estate.Price
import Estate.Proofs.Text.Cutting

/-!
The number that a price is written with, and the amount that is read of it.

What counts in a text are its digits and separators. Where both kinds of separators occur the last
one stands before the fraction. The amount read is the number in hundredths, a half rounded up, as
far as it fits a word.
-/

namespace Estate.Price

open Text

/-- The digits and separators of a text. -/
def numeral (s : String) : List Char :=
  s.toList.filter fun c => isAsciiDigit c || c == ',' || c == '.'

/-- The number that digits and separators write: a fraction stands behind the last separator if
there are separators of both kinds; all others only group digits. -/
inductive Writes : List Char → ℚ → Prop where
  | whole {cs : List Char} (h : ¬ (',' ∈ cs ∧ '.' ∈ cs)) :
    Writes cs (digitsValue (cs.filter isAsciiDigit))
  | decimal {before fraction : List Char} {sep : Char} (hsep : sep = ',' ∨ sep = '.')
    (hcomma : ',' ∈ before ++ sep :: fraction) (hpoint : '.' ∈ before ++ sep :: fraction)
    (hfraction : ∀ c ∈ fraction, isAsciiDigit c) :
    Writes (before ++ sep :: fraction)
      (digitsValue (before.filter isAsciiDigit) + digitsValue fraction / 10 ^ fraction.length)

/-! ### Fractions -/

/-- What digits behind a separator add. -/
def fractionValue (digits : List Char) : ℚ := digitsValue digits / 10 ^ digits.length

lemma fractionValue_nil : fractionValue [] = 0 := by simp [fractionValue, digitsValue]

lemma fractionValue_cons (d : Char) (digits : List Char) :
    fractionValue (d :: digits) = ((d.toNat - 48 : ℕ) + fractionValue digits) / 10 := by
  have hone : digitsValue [d] = d.toNat - 48 := by simp [digitsValue]
  have hcons : digitsValue (d :: digits) =
      (d.toNat - 48) * 10 ^ digits.length + digitsValue digits := by
    rw [← List.singleton_append, digitsValue_append, hone]
  rw [fractionValue, fractionValue, hcons, List.length_cons]
  push_cast
  field_simp
  ring

lemma digit_le_nine {d : Char} (h : isAsciiDigit d) : d.toNat - 48 ≤ 9 := by
  have hhigh : d.toNat ≤ 57 := (toNat_between h).2
  omega

lemma fractionValue_nonneg (digits : List Char) : 0 ≤ fractionValue digits := by
  unfold fractionValue
  positivity

lemma fractionValue_lt_one {digits : List Char} (h : ∀ c ∈ digits, isAsciiDigit c) :
    fractionValue digits < 1 := by
  induction digits with
  | nil => simp [fractionValue_nil]
  | cons d digits ih =>
    have hd : ((d.toNat - 48 : ℕ) : ℚ) ≤ 9 := by exact_mod_cast digit_le_nine (h d (by simp))
    have hrest := ih fun c hc => h c (List.mem_cons_of_mem d hc)
    rw [fractionValue_cons]
    linarith

/-- Two digits and the third one rounded are the fraction in hundredths, a half rounded up. -/
lemma floor_fraction {digits : List Char} (h : ∀ c ∈ digits, isAsciiDigit c) :
    ⌊100 * fractionValue digits + 1 / 2⌋ = hundredths digits := by
  have hdigit {d : Char} (hd : d ∈ digits) : ((d.toNat - 48 : ℕ) : ℚ) ≤ 9 := by
    exact_mod_cast digit_le_nine (h d hd)
  rw [Int.floor_eq_iff]
  rcases digits with _ | ⟨a, _ | ⟨b, _ | ⟨c, digits⟩⟩⟩
  · norm_num [hundredths, fractionValue_nil]
  · have ha := hdigit (d := a) (by simp)
    simp only [hundredths, fractionValue_cons, fractionValue_nil]
    norm_num
    constructor <;> linarith
  · simp only [hundredths, fractionValue_cons, fractionValue_nil]
    norm_num
    constructor <;> linarith
  · have hlow := fractionValue_nonneg digits
    have hhigh : fractionValue digits < 1 :=
      fractionValue_lt_one fun d hd => h d (by simp [hd])
    have hc := hdigit (d := c) (by simp)
    simp only [hundredths, fractionValue_cons]
    by_cases hup : 5 ≤ c.toNat - 48
    · have hup' : (5 : ℚ) ≤ (c.toNat - 48 : ℕ) := by exact_mod_cast hup
      simp [hup]
      constructor <;> linarith
    · have hdown : ((c.toNat - 48 : ℕ) : ℚ) ≤ 4 := by exact_mod_cast (by omega : c.toNat - 48 ≤ 4)
      simp [hup]
      constructor <;> linarith

/-! ### Separators -/

section

variable {s : String} {cs before fraction : List Char} {sep : Char}

lemma mem_numeral {c : Char} (h : c ∈ numeral s) : isAsciiDigit c ∨ c = ',' ∨ c = '.' := by
  obtain ⟨-, hc⟩ := List.mem_filter.1 h
  simpa [or_assoc] using hc

lemma splitDecimals_whole (h : ¬ (',' ∈ cs ∧ '.' ∈ cs)) : splitDecimals cs = (cs, []) := by
  rw [splitDecimals, if_neg (by simpa using h)]

lemma not_digit_of_separator (h : sep = ',' ∨ sep = '.') : isAsciiDigit sep = false := by
  rcases h with rfl | rfl <;> rfl

lemma splitDecimals_decimal (hsep : sep = ',' ∨ sep = '.')
    (hcomma : ',' ∈ before ++ sep :: fraction) (hpoint : '.' ∈ before ++ sep :: fraction)
    (hfraction : ∀ c ∈ fraction, isAsciiDigit c) :
    splitDecimals (before ++ sep :: fraction) = (before ++ [sep], fraction) := by
  have hback : (before ++ sep :: fraction).reverse = fraction.reverse ++ sep :: before.reverse := by
    simp
  have hdigits : ∀ c ∈ fraction.reverse, isAsciiDigit c := fun c hc =>
    hfraction c (List.mem_reverse.1 hc)
  have hhead : ∀ c ∈ (sep :: before.reverse).head?, isAsciiDigit c = false := by
    simpa using not_digit_of_separator hsep
  rw [splitDecimals, if_pos (by simp [hcomma, hpoint]), hback]
  dsimp only
  rw [dropWhile_append_of_all hdigits hhead, takeWhile_append_of_all hdigits hhead]
  simp

lemma filter_separator (hsep : sep = ',' ∨ sep = '.') (before : List Char) :
    (before ++ [sep]).filter isAsciiDigit = before.filter isAsciiDigit := by
  simp [not_digit_of_separator hsep]

/-- What stands before the fraction and behind it, where there are separators of both kinds. -/
lemma exists_decimal (h : ∀ c ∈ cs, isAsciiDigit c ∨ c = ',' ∨ c = '.') (hcomma : ',' ∈ cs) :
    ∃ before sep fraction, (sep = ',' ∨ sep = '.') ∧ (∀ c ∈ fraction, isAsciiDigit c) ∧
      cs = before ++ sep :: fraction := by
  obtain ⟨g, hg, hsplit⟩ := exists_split isAsciiDigit cs.reverse
  have hcs : cs = (cs.reverse.dropWhile isAsciiDigit).reverse ++ g.reverse := by
    rw [← List.reverse_append, ← hsplit, List.reverse_reverse]
  have hdigits : ∀ c ∈ g.reverse, isAsciiDigit c := fun c hc => hg c (List.mem_reverse.1 hc)
  cases hrest : cs.reverse.dropWhile isAsciiDigit with
  | nil =>
    rw [hrest, List.reverse_nil, List.nil_append] at hcs
    rw [hcs] at hcomma
    exact absurd (hdigits ',' hcomma) (by decide)
  | cons sep rest =>
    rw [hrest, List.reverse_cons, List.append_assoc, List.singleton_append] at hcs
    refine ⟨rest.reverse, sep, g.reverse, ?_, hdigits, hcs⟩
    have hnot : isAsciiDigit sep = false :=
      head?_dropWhile isAsciiDigit cs.reverse sep (by rw [hrest]; rfl)
    have hsep := h sep (by rw [hcs]; simp)
    simpa [hnot] using hsep

/-- Digits and separators write one number. -/
lemma exists_writes (h : ∀ c ∈ cs, isAsciiDigit c ∨ c = ',' ∨ c = '.') : ∃ x, Writes cs x := by
  by_cases hboth : ',' ∈ cs ∧ '.' ∈ cs
  · obtain ⟨before, sep, fraction, hsep, hfraction, rfl⟩ := exists_decimal h hboth.1
    exact ⟨_, .decimal hsep hboth.1 hboth.2 hfraction⟩
  · exact ⟨_, .whole hboth⟩

/-- The number that is written is the one of the digits before the fraction and behind it. -/
lemma Writes.eq_split {x : ℚ} (h : Writes cs x) :
    x = digitsValue ((splitDecimals cs).1.filter isAsciiDigit) +
      fractionValue (splitDecimals cs).2 := by
  cases h with
  | whole h => rw [splitDecimals_whole h, fractionValue_nil, add_zero]
  | decimal hsep hcomma hpoint hfraction =>
    rw [splitDecimals_decimal hsep hcomma hpoint hfraction, filter_separator hsep, fractionValue]

lemma Writes.fraction_digits {x : ℚ} (h : Writes cs x) :
    ∀ c ∈ (splitDecimals cs).2, isAsciiDigit c := by
  cases h with
  | whole h => simp [splitDecimals_whole h]
  | decimal hsep hcomma hpoint hfraction =>
    rwa [splitDecimals_decimal hsep hcomma hpoint hfraction]

lemma centsOf_eq (s : String) :
    centsOf s =
      let total : Int := digitsValue ((splitDecimals (numeral s)).1.filter isAsciiDigit) * 100 +
        hundredths (splitDecimals (numeral s)).2
      if total ≤ maxInt64 then total else 0 := rfl

end

/-- **Exact amounts**: every text writes one number, which is not negative, and the amount read of
it is the number in hundredths, rounded to the nearest and a half rounded up, or zero where that
does not fit a word. -/
theorem cents_exact (s : String) :
    ∃ x : ℚ, (∀ y, Writes (numeral s) y ↔ y = x) ∧ 0 ≤ x ∧
      centsOf s = if ⌊100 * x + 1 / 2⌋ ≤ maxInt64 then ⌊100 * x + 1 / 2⌋ else 0 := by
  obtain ⟨x, hx⟩ := exists_writes fun c => mem_numeral (s := s) (c := c)
  have hsplit := hx.eq_split
  have hround : ⌊100 * x + 1 / 2⌋ =
      (digitsValue ((splitDecimals (numeral s)).1.filter isAsciiDigit) * 100 +
        hundredths (splitDecimals (numeral s)).2 : Int) := by
    rw [← floor_fraction hx.fraction_digits, ← Int.floor_intCast_add]
    congr 1
    rw [hsplit]
    push_cast
    ring
  refine ⟨x, fun y => ⟨fun hy => ?_, fun hy => hy ▸ hx⟩, ?_, ?_⟩
  · rw [hy.eq_split, hsplit]
  · rw [hsplit]
    exact add_nonneg (Nat.cast_nonneg _) (fractionValue_nonneg _)
  · rw [centsOf_eq, hround]

example : centsOf "ab 1.234,995 €" = 123500 := by decide +kernel

end Estate.Price
