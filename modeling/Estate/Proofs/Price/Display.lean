import Mathlib.Tactic.IntervalCases
import Estate.Proofs.Json.PrintedNumber
import Estate.Proofs.Price.Decimal

/-!
Displayed amounts are read back.

An amount is shown with commas between groups of digits, and with a point and two digits more if it
is not whole. Only from a thousand on there are separators of both kinds; a point alone is read as
one that groups.
-/

namespace Estate.Price

open Text

/-! ### Groups -/

section

variable {ds : List Char}

lemma grouped_cons (d : Char) (rest : List Char) :
    grouped (d :: rest) =
      (if rest.length % 3 == 0 && !rest.isEmpty then [d, ','] else [d]) ++ grouped rest := rfl

lemma mem_grouped (ds : List Char) : ∀ c ∈ grouped ds, c ∈ ds ∨ c = ',' := by
  induction ds with
  | nil => exact fun c hc => by cases hc
  | cons d rest ih =>
    intro c hc
    rw [grouped_cons, List.mem_append] at hc
    rcases hc with hc | hc
    · split at hc
      · have hc : c = d ∨ c = ',' := by simpa using hc
        exact hc.imp_left fun h => by simp [h]
      · exact .inl (by simp [List.mem_singleton.1 hc])
    · exact (ih c hc).imp_left (List.mem_cons_of_mem d)

/-- Without the commas there are the digits. -/
lemma filter_grouped (h : ∀ c ∈ ds, isAsciiDigit c) : (grouped ds).filter isAsciiDigit = ds := by
  have hcomma : isAsciiDigit ',' = false := rfl
  induction ds with
  | nil => rfl
  | cons d rest ih =>
    have hd : isAsciiDigit d := h d (by simp)
    have hrest := ih fun c hc => h c (List.mem_cons_of_mem d hc)
    rw [grouped_cons, List.filter_append, hrest]
    split
    · simp [hd, hcomma]
    · simp [hd]

/-- There are commas from four digits on. -/
lemma comma_mem_grouped (h : ∀ c ∈ ds, isAsciiDigit c) : ',' ∈ grouped ds ↔ 4 ≤ ds.length := by
  induction ds with
  | nil => simp [grouped, grouped.go]
  | cons d rest ih =>
    have hd : ',' ≠ d := by
      rintro rfl
      exact absurd (h ',' (by simp)) (by decide)
    have hrest := ih fun c hc => h c (List.mem_cons_of_mem d hc)
    have hempty : rest = [] ↔ rest.length = 0 := List.length_eq_zero_iff.symm
    rw [grouped_cons, List.mem_append, hrest, List.length_cons]
    split
    · next hgroup =>
      simp only [Bool.and_eq_true, beq_iff_eq, Bool.not_eq_true', List.isEmpty_eq_false_iff, ne_eq,
        hempty] at hgroup
      simp only [List.mem_cons, true_or, or_true, true_iff]
      omega
    · next hgroup =>
      simp only [Bool.and_eq_true, beq_iff_eq, Bool.not_eq_true', List.isEmpty_eq_false_iff, ne_eq,
        hempty, not_and, not_not] at hgroup
      simp only [List.mem_singleton, hd, false_or]
      omega

end

/-! ### Displayed amounts -/

/-- The digits of what is less than a unit. -/
def centDigits (rest : Nat) : List Char := [Nat.digitChar (rest / 10), Nat.digitChar (rest % 10)]

lemma digitChar_spec {n : Nat} (h : n < 10) :
    isAsciiDigit (Nat.digitChar n) ∧ (Nat.digitChar n).toNat - 48 = n := by
  interval_cases n <;> decide

lemma centDigits_spec {rest : Nat} (h : rest < 100) :
    (∀ c ∈ centDigits rest, isAsciiDigit c) ∧ digitsValue (centDigits rest) = rest ∧
      hundredths (centDigits rest) = rest := by
  obtain ⟨htens, htensValue⟩ := digitChar_spec (n := rest / 10) (by omega)
  obtain ⟨hones, honesValue⟩ := digitChar_spec (n := rest % 10) (by omega)
  refine ⟨?_, ?_, ?_⟩
  · simp [centDigits, htens, hones]
  · simp only [centDigits, digitsValue, List.foldl_cons, List.foldl_nil, htensValue, honesValue]
    omega
  · have hsum : hundredths (centDigits rest) = rest / 10 * 10 + rest % 10 := by
      simp [centDigits, hundredths, htensValue, honesValue]
    omega

/-- What is shown behind the units. -/
lemma toList_tail {rest : Nat} (h : rest < 100) :
    (if rest == 0 then "" else if rest < 10 then s!".0{rest}" else s!".{rest}").toList =
      if rest = 0 then [] else '.' :: centDigits rest := by
  have hall : ∀ rest < 100,
      (if rest == 0 then "" else if rest < 10 then s!".0{rest}" else s!".{rest}").toList =
        if rest = 0 then [] else '.' :: centDigits rest := by
    decide +kernel
  exact hall rest h

/-- The sign of a known currency is neither a digit nor a separator. -/
lemma numeral_signOf {currency : String} (h : currency ∈ codes) :
    numeral (signOf currency) = [] := by
  have hall : ∀ currency ∈ codes, numeral (signOf currency) = [] := by decide +kernel
  exact hall currency h

lemma numeral_append (s t : String) : numeral (s ++ t) = numeral s ++ numeral t := by
  rw [numeral, String.toList_append, List.filter_append, numeral, numeral]

lemma numeral_of_all {s : String}
    (h : ∀ c ∈ s.toList, isAsciiDigit c ∨ c = ',' ∨ c = '.') : numeral s = s.toList :=
  List.filter_eq_self.2 fun c hc => by simpa [or_assoc] using h c hc

/-- The units of an amount in groups. -/
def unitGroups (units : Nat) : List Char := grouped (Nat.toDigits 10 units)

lemma digit_of_mem_units {units : Nat} : ∀ c ∈ Nat.toDigits 10 units, isAsciiDigit c :=
  fun _ => Json.isAsciiDigit_of_mem_toDigits

lemma mem_unitGroups {units : Nat} {c : Char} (h : c ∈ unitGroups units) :
    isAsciiDigit c ∨ c = ',' :=
  (mem_grouped _ c h).imp_left (digit_of_mem_units c)

lemma point_not_mem_unitGroups (units : Nat) : '.' ∉ unitGroups units := by
  intro hmem
  rcases mem_unitGroups hmem with h | h
  · exact absurd h (by decide)
  · exact absurd h (by decide)

lemma comma_mem_unitGroups {units : Nat} : ',' ∈ unitGroups units ↔ 1000 ≤ units := by
  have hlength : (Nat.toDigits 10 units).length ≤ 3 ↔ units < 10 ^ 3 :=
    Nat.length_toDigits_le_iff (by decide) (by decide)
  rw [unitGroups, comma_mem_grouped digit_of_mem_units]
  omega

lemma filter_unitGroups (units : Nat) :
    (unitGroups units).filter isAsciiDigit = Nat.toDigits 10 units :=
  filter_grouped digit_of_mem_units

/-- The digits and separators of an amount displayed in a known currency. -/
lemma numeral_written {currency : String} (h : currency ∈ codes) (cents : Nat) :
    numeral (written cents currency) =
      unitGroups (cents / 100) ++
        if cents % 100 = 0 then [] else '.' :: centDigits (cents % 100) := by
  have hrest : cents % 100 < 100 := Nat.mod_lt _ (by decide)
  have hempty : numeral "" = [] := rfl
  have hsign : ¬ (cents : Int) < 0 := by omega
  unfold written
  dsimp only
  rw [if_neg hsign, Int.natAbs_natCast, numeral_append, numeral_append, numeral_append, hempty,
    numeral_signOf h, List.nil_append, List.nil_append]
  congr 1
  · rw [numeral_of_all, String.toList_ofList, unitGroups]
    intro c hc
    rw [String.toList_ofList] at hc
    exact (mem_unitGroups hc).imp_right .inl
  · rw [numeral_of_all, toList_tail hrest]
    intro c hc
    rw [toList_tail hrest] at hc
    split at hc
    · cases hc
    · rcases List.mem_cons.1 hc with rfl | hc
      · exact .inr (.inr rfl)
      · exact .inl ((centDigits_spec hrest).1 c hc)

/-! ### Reading back -/

section

variable {s : String} {units rest : Nat}

lemma centsOf_whole (h : ¬ (',' ∈ numeral s ∧ '.' ∈ numeral s))
    (hunits : digitsValue ((numeral s).filter isAsciiDigit) = units)
    (hfits : (units * 100 : Int) ≤ maxInt64) : centsOf s = units * 100 := by
  have hnone : hundredths [] = 0 := rfl
  rw [centsOf_eq, splitDecimals_whole h]
  dsimp only
  rw [hunits, hnone, Int.natCast_zero, Int.add_zero, if_pos hfits]

lemma centsOf_decimal {before fraction : List Char} (h : numeral s = before ++ '.' :: fraction)
    (hcomma : ',' ∈ before) (hfraction : ∀ c ∈ fraction, isAsciiDigit c)
    (hunits : digitsValue (before.filter isAsciiDigit) = units) (hrest : hundredths fraction = rest)
    (hfits : (units * 100 + rest : Int) ≤ maxInt64) : centsOf s = units * 100 + rest := by
  have hsplit : splitDecimals (before ++ '.' :: fraction) = (before ++ ['.'], fraction) :=
    splitDecimals_decimal (.inr rfl) (by simp [hcomma]) (by simp) hfraction
  rw [centsOf_eq, h, hsplit]
  dsimp only
  rw [filter_separator (.inr rfl), hunits, hrest, if_pos hfits]

end

section

variable {cents : Nat} {currency : String}

/-- A whole amount is shown without a point. -/
lemma centsOf_written_whole (h : currency ∈ codes) (hwhole : cents % 100 = 0)
    (hfits : (cents : Int) ≤ maxInt64) : centsOf (written cents currency) = cents := by
  have hnumeral : numeral (written cents currency) = unitGroups (cents / 100) := by
    rw [numeral_written h, if_pos hwhole, List.append_nil]
  have hpoint : '.' ∉ numeral (written cents currency) := by
    rw [hnumeral]
    exact point_not_mem_unitGroups _
  have hread : digitsValue ((numeral (written cents currency)).filter isAsciiDigit) =
      cents / 100 := by
    rw [hnumeral, filter_unitGroups, Json.digitsValue_toDigits]
  rw [centsOf_whole (fun hboth => hpoint hboth.2) hread (by omega)]
  omega

/-- From a thousand units on there is a comma before the point. -/
lemma centsOf_written_large (h : currency ∈ codes) (hrest : cents % 100 ≠ 0)
    (hlarge : 100000 ≤ cents) (hfits : (cents : Int) ≤ maxInt64) :
    centsOf (written cents currency) = cents := by
  obtain ⟨hdigits, -, hround⟩ := centDigits_spec (Nat.mod_lt cents (by decide : 0 < 100))
  have hnumeral := numeral_written h cents
  rw [if_neg hrest] at hnumeral
  have hcomma : ',' ∈ unitGroups (cents / 100) := comma_mem_unitGroups.2 (by omega)
  have hread : digitsValue ((unitGroups (cents / 100)).filter isAsciiDigit) = cents / 100 := by
    rw [filter_unitGroups, Json.digitsValue_toDigits]
  rw [centsOf_decimal hnumeral hcomma hdigits hread hround (by omega)]
  omega

/-- Below a thousand units the point is the only separator, and is read as one that groups. -/
lemma centsOf_written_small (h : currency ∈ codes) (hrest : cents % 100 ≠ 0)
    (hsmall : cents < 100000) : centsOf (written cents currency) = 100 * cents := by
  have hmax : maxInt64 = 9223372036854775807 := rfl
  obtain ⟨hdigits, hvalue, -⟩ := centDigits_spec (Nat.mod_lt cents (by decide : 0 < 100))
  have hnumeral := numeral_written h cents
  rw [if_neg hrest] at hnumeral
  have hcomma : ',' ∉ numeral (written cents currency) := by
    rw [hnumeral, List.mem_append, comma_mem_unitGroups, List.mem_cons, not_or, not_or]
    exact ⟨by omega, by decide, fun hmem => absurd (hdigits ',' hmem) (by decide)⟩
  have hread : digitsValue ((numeral (written cents currency)).filter isAsciiDigit) = cents := by
    have hpoint : isAsciiDigit '.' = false := rfl
    have hlength : (centDigits (cents % 100)).length = 2 := rfl
    rw [hnumeral, List.filter_append, filter_unitGroups,
      List.filter_cons_of_neg (by simp [hpoint]), List.filter_eq_self.2 hdigits,
      digitsValue_append, Json.digitsValue_toDigits, hvalue, hlength]
    omega
  rw [centsOf_whole (fun hboth => hcomma hboth.1) hread (by omega)]
  omega

end

/-- **Displayed amounts**: what is displayed of an amount in a known currency is read back as the
amount if that is whole or of a thousand units and more; else the point groups, and the amount is
read a hundred times too large. -/
theorem display_reads_back (cents : Int) (hlow : 0 ≤ cents) (hhigh : cents ≤ maxInt64)
    (currency : String) (h : currency ∈ codes) :
    centsOf (written cents currency) =
      if cents % 100 = 0 ∨ 100000 ≤ cents then cents else 100 * cents := by
  obtain ⟨n, rfl⟩ := Int.eq_ofNat_of_zero_le hlow
  by_cases hwhole : n % 100 = 0
  · rw [centsOf_written_whole h hwhole hhigh, if_pos (by omega)]
  · by_cases hlarge : 100000 ≤ n
    · rw [centsOf_written_large h hwhole hlarge hhigh, if_pos (by omega)]
    · rw [centsOf_written_small h hwhole (by omega), if_neg (by omega)]

theorem display_reads_back_largest :
    (0 : Int) ≤ maxInt64 ∧ maxInt64 ≤ maxInt64 ∧ "EUR" ∈ codes ∧
      written maxInt64 "EUR" = "€92,233,720,368,547,758.07" ∧
      centsOf (written maxInt64 "EUR") = maxInt64 ∧
      centsOf (written 99999 "EUR") = 9999900 := by
  have h : "EUR" ∈ codes := by decide
  have hlarge := display_reads_back maxInt64 (by decide) (Int.le_refl _) "EUR" h
  have hsmall := display_reads_back 99999 (by decide) (by decide) "EUR" h
  exact ⟨by decide, Int.le_refl _, h, by decide +kernel, hlarge, hsmall⟩

end Estate.Price
