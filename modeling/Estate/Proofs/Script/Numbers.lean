import Mathlib.Data.Nat.Cast.Field
import Estate.Json.Path
import Estate.Proofs.Binary64.Rounding
import Estate.Proofs.Script.Running

/-!
The numbers that scripts give to variables.

A number of a script is a double. One that is integral becomes an integer of 64 bits as far as it
lies between the limits of these, and the limits are doubles as well: the upper one is the power of
two above the greatest integer. So that power comes out as the greatest integer, and every other
number keeps its value, wherever it stands.
-/

namespace Estate

/-! ### Values of numbers -/

namespace Binary64

lemma value_neg (x : Binary64) : x.neg.value = -x.value := by
  have hsign : x.neg.negative = !x.negative := rfl
  have hmagnitude : x.neg.significand * (2 : ℚ) ^ x.neg.exponent =
      x.significand * 2 ^ x.exponent := rfl
  rw [value, value, hmagnitude, hsign]
  cases x.negative <;> simp

lemma denominator_ne_zero (x : Binary64) : ((x.fraction.2 : ℕ) : ℚ) ≠ 0 := by
  exact_mod_cast (Nat.two_pow_pos _).ne'

lemma toInt?_of_dvd {x : Binary64} (h : x.fraction.2 ∣ x.fraction.1) :
    ∃ n : ℤ, x.toInt? = some n ∧ x.value = n := by
  have hwhole : (x.fraction.1 % x.fraction.2 == 0) = true :=
    beq_iff_eq.2 (Nat.mod_eq_zero_of_dvd h)
  have hquotient : (x.fraction.1 : ℚ) / x.fraction.2 = ((x.fraction.1 / x.fraction.2 : ℕ) : ℚ) :=
    (Nat.cast_div h x.denominator_ne_zero).symm
  refine ⟨_, if_pos hwhole, ?_⟩
  rw [value_eq_fraction, hquotient]
  split
  · rw [neg_one_mul, Int.cast_neg, Int.cast_natCast]
    rfl
  · rw [one_mul, Int.cast_natCast]
    rfl

lemma dvd_of_value_eq {x : Binary64} {n : ℤ} (h : x.value = n) :
    x.fraction.2 ∣ x.fraction.1 := by
  have hsize : |x.value| = x.fraction.1 / x.fraction.2 := by
    rw [value_eq_fraction, abs_mul, abs_of_nonneg (by positivity : (0 : ℚ) ≤ _ / _)]
    split <;> simp
  rw [h, eq_div_iff x.denominator_ne_zero] at hsize
  have hproduct : |n| * x.fraction.2 = x.fraction.1 := by exact_mod_cast hsize
  have hdvd : (x.fraction.2 : ℤ) ∣ (x.fraction.1 : ℤ) := ⟨|n|, by rw [← hproduct, mul_comm]⟩
  exact_mod_cast hdvd

/-- A number is an integer where its value is one. -/
lemma toInt?_eq_some_iff {x : Binary64} {n : ℤ} : x.toInt? = some n ↔ x.value = n := by
  have hread {n : ℤ} (h : x.value = n) : x.toInt? = some n := by
    obtain ⟨m, hm, hvalue⟩ := toInt?_of_dvd (dvd_of_value_eq h)
    have heq : m = n := by exact_mod_cast hvalue.symm.trans h
    rw [hm, heq]
  refine ⟨fun h => ?_, hread⟩
  by_cases hdvd : x.fraction.2 ∣ x.fraction.1
  · obtain ⟨m, hm, hvalue⟩ := toInt?_of_dvd hdvd
    rw [h, Option.some.injEq] at hm
    rw [hvalue, hm]
  · have hbroken : ¬ (x.fraction.1 % x.fraction.2 == 0) = true := fun hmod =>
      hdvd (Nat.dvd_of_mod_eq_zero (beq_iff_eq.1 hmod))
    have hnone : x.toInt? = none := if_neg hbroken
    rw [hnone] at h
    cases h

end Binary64

/-- The value that a number stands for. -/
def Json.Number.value : Json.Number → ℚ
  | .int n => n
  | .float x => x.value

namespace Script

open Json (Value Number)

/-! ### A single number -/

/-- The number that a double becomes: one of the same value, or the greatest integer for the power
of two above it. -/
lemma numberValue?_some (x : Binary64) :
    ∃ n : Number, numberValue? (some x) = some (.number n) ∧
      (x.value ≠ 2 ^ 63 → n.value = x.value) ∧
      (x.value = 2 ^ 63 → n = .int Text.maxInt64) := by
  rw [numberValue?, Option.map_some]
  cases hx : x.toInt? with
  | none =>
    have hne : x.value ≠ 2 ^ 63 := by
      intro h
      have hwhole : x.toInt? = some (2 ^ 63) := Binary64.toInt?_eq_some_iff.2 (by rw [h]; norm_num)
      rw [hx] at hwhole
      cases hwhole
    exact ⟨.float x, rfl, fun _ => rfl, fun h => absurd h hne⟩
  | some n =>
    have hvalue : x.value = n := Binary64.toInt?_eq_some_iff.1 hx
    have htop : x.value = 2 ^ 63 ↔ n = 2 ^ 63 := by
      rw [hvalue]
      norm_cast
    dsimp only
    split
    · next hrange =>
      rw [Bool.and_eq_true, decide_eq_true_eq, decide_eq_true_eq] at hrange
      refine ⟨_, rfl, fun hne => ?_, fun heq => ?_⟩
      · have hclamp : Text.clampInt64 n = n := by
          rw [ne_eq, htop] at hne
          simp only [Text.clampInt64, Text.minInt64, Text.maxInt64] at hrange ⊢
          omega
        rw [hclamp, hvalue]
        rfl
      · rw [htop.1 heq]
        rfl
    · next hrange =>
      refine ⟨.float x, rfl, fun _ => rfl, fun heq => ?_⟩
      rw [htop.1 heq] at hrange
      exact absurd (by decide) hrange

/-- A number as it is written, or with a minus in front of it. -/
inductive IsNumber : Expression → ℚ → Prop where
  | plain (x : Binary64) : IsNumber (.number (some x)) x.value
  | negative (x : Binary64) : IsNumber (.negative (.number (some x))) (-x.value)

lemma IsNumber.value? {e : Expression} {q : ℚ} (h : IsNumber e q) :
    ∃ n : Number, e.value? = some (.number n) ∧ (q ≠ 2 ^ 63 → n.value = q) ∧
      (q = 2 ^ 63 → n = .int Text.maxInt64) := by
  cases h with
  | plain x =>
    rw [Expression.value?]
    exact numberValue?_some x
  | negative x =>
    rw [Expression.value?, Option.map_some, ← Binary64.value_neg]
    exact numberValue?_some x.neg

/-! ### Numbers within other expressions -/

/-- What is in an expression at the end of a row of steps through parentheses, arrays and objects.
Of members with one key the last counts, and no key may be without a text. -/
inductive Within : Expression → List Json.Step → Expression → Prop where
  | here (e : Expression) : Within e [] e
  | grouped {e inner : Expression} {steps : List Json.Step} (h : Within e steps inner) :
    Within (.grouped e) steps inner
  | item {items : List (Option Expression)} {i : Nat} {e inner : Expression}
    {steps : List Json.Step} (hi : items[i]? = some (some e)) (h : Within e steps inner) :
    Within (.array items) (.item (some i) :: steps) inner
  | member {before after : List (Key × Expression)} {key : Key} {name : String}
    {e inner : Expression} {steps : List Json.Step} (hkey : key.text? = some name)
    (hkeys : ∀ m ∈ before ++ after, m.1.text? ≠ none) (hlast : ∀ m ∈ after, m.1.text? ≠ some name)
    (h : Within e steps inner) :
    Within (.object (before ++ (key, e) :: after)) (.name name.toList :: steps) inner

lemma getElem?_itemValues (items : List (Option Expression)) (i : Nat) :
    (itemValues items)[i]? = items[i]?.map fun e => (e.bind Expression.value?).getD .null := by
  induction items generalizing i with
  | nil => rfl
  | cons e items ih =>
    cases i with
    | zero => cases e <;> rfl
    | succ i => cases e <;> exact ih i

/-- Members whose keys have texts have values, one for each. -/
lemma memberValues?_eq_some {members : List (Key × Expression)}
    (h : ∀ m ∈ members, m.1.text? ≠ none) :
    memberValues? members =
      some (members.map fun m => (m.1.text?.getD "", (m.2.value?).getD .null)) := by
  induction members with
  | nil => rfl
  | cons m members ih =>
    rw [List.forall_mem_cons] at h
    obtain ⟨name, hname⟩ := Option.ne_none_iff_exists'.1 h.1
    rw [memberValues?, ih h.2, hname, List.map_cons, hname]
    rfl

/-- The steps lead from the value of an expression to the value of what is within it. -/
lemma Within.walk {e inner : Expression} {steps : List Json.Step} (h : Within e steps inner)
    {w : Value} (hw : inner.value? = some w) :
    ∃ v, e.value? = some v ∧ steps.foldlM Value.step? v = some w := by
  induction h with
  | here e => exact ⟨w, hw, rfl⟩
  | grouped _ ih =>
    rw [Expression.value?]
    exact ih hw
  | @item items i e inner steps hi _ ih =>
    obtain ⟨v, hv, hwalk⟩ := ih hw
    refine ⟨.array (itemValues items), by rw [Expression.value?], ?_⟩
    have hstep : (Value.array (itemValues items)).step? (.item (some i)) = some v := by
      simp [Value.step?, Value.item?, getElem?_itemValues, hi, hv]
    rw [List.foldlM_cons, hstep]
    exact hwalk
  | @member before after key name e inner steps hkey hkeys hlast _ ih =>
    obtain ⟨v, hv, hwalk⟩ := ih hw
    have hall : ∀ m ∈ before ++ (key, e) :: after, m.1.text? ≠ none := by
      simp only [List.forall_mem_append, List.forall_mem_cons] at hkeys ⊢
      exact ⟨hkeys.1, by simp [hkey], hkeys.2⟩
    have hvalue := memberValues?_eq_some hall
    rw [List.map_append, List.map_cons, hkey, hv] at hvalue
    refine ⟨_, by rw [Expression.value?, hvalue, Option.map_some], ?_⟩
    have hafter : ∀ p ∈ after.map fun m => (m.1.text?.getD "", (m.2.value?).getD .null),
        p.1 ≠ name := by
      rw [List.forall_mem_map]
      intro m hm hname
      obtain ⟨other, hother⟩ := Option.ne_none_iff_exists'.1 (hkeys m (by simp [hm]))
      rw [hother, Option.getD_some] at hname
      exact hlast m hm (hother.trans (congrArg some hname))
    rw [List.foldlM_cons, Value.step?, String.ofList_toList, Value.member?, Option.getD_some,
      get?_ofList_concat hafter]
    exact hwalk

/-- Wherever a number stands in an expression, with a minus or without, the value of the expression
has a number at that place, and it has the same value, exactly if this is not the power of two above
the greatest integer. That power comes out as the greatest integer. -/
theorem numbers_kept {e inner : Expression} {steps : List Json.Step} {q : ℚ}
    (h : Within e steps inner) (hq : IsNumber inner q) :
    ∃ (v : Value) (n : Number), e.value? = some v ∧
      steps.foldlM Value.step? v = some (.number n) ∧ (n.value = q ↔ q ≠ 2 ^ 63) ∧
      (q = 2 ^ 63 → n = .int Text.maxInt64) := by
  obtain ⟨n, hn, hkept, hlost⟩ := hq.value?
  obtain ⟨v, hv, hwalk⟩ := h.walk hn
  refine ⟨v, n, hv, hwalk, ⟨fun heq hpower => ?_, hkept⟩, hlost⟩
  have hgreatest : (Text.maxInt64 : ℚ) = 2 ^ 63 := by
    rw [← hpower, ← heq, hlost hpower]
    rfl
  exact absurd (by exact_mod_cast hgreatest) (by decide : Text.maxInt64 ≠ 2 ^ 63)

/-- The power of two above the greatest integer of 64 bits. -/
def beyondInt64 : Binary64 := ⟨false, ⟨1086 * 2 ^ 52, by decide⟩⟩

lemma value_beyondInt64 : beyondInt64.value = 2 ^ 63 := by
  have hsignificand : beyondInt64.significand = 2 ^ 52 := by decide +kernel
  have hexponent : beyondInt64.exponent = 11 := by decide +kernel
  have hsign : beyondInt64.negative = false := rfl
  rw [Binary64.value, hsignificand, hexponent, hsign]
  norm_num

/-- With a minus the power is the least integer, and is kept. -/
theorem numbers_kept_least :
    ∃ (v : Value) (n : Number),
      (Expression.object [(.name "a", .array [none,
        some (.grouped (.negative (.number (some beyondInt64))))])]).value? = some v ∧
      [.name "a".toList, .item (some 1)].foldlM Value.step? v = some (.number n) ∧
      n.value = -2 ^ 63 := by
  have hwithin : Within (.object ([] ++ [(.name "a", .array [none,
      some (.grouped (.negative (.number (some beyondInt64))))])]))
      [.name "a".toList, .item (some 1)] (.negative (.number (some beyondInt64))) :=
    .member rfl (by simp) (by simp) (.item rfl (.grouped (.here _)))
  obtain ⟨v, n, hv, hn, hvalue, -⟩ := numbers_kept hwithin (.negative beyondInt64)
  rw [value_beyondInt64] at hvalue
  exact ⟨v, n, hv, hn, hvalue.2 (by norm_num)⟩

/-- The power by itself is not. -/
theorem power_not_kept :
    linesOf? "var x = 9223372036854775808;" = some [⟨none, "x", .number (some beyondInt64)⟩] ∧
      IsNumber (.number (some beyondInt64)) (2 ^ 63) ∧
      valuesOf "var x = 9223372036854775808;" = [("x", .number (.int Text.maxInt64))] ∧
      (Number.int Text.maxInt64).value ≠ 2 ^ 63 := by
  have hlines : linesOf? "var x = 9223372036854775808;" =
      some [⟨none, "x", .number (some beyondInt64)⟩] := by
    decide +kernel
  have hnumber : IsNumber (.number (some beyondInt64)) (2 ^ 63) :=
    value_beyondInt64 ▸ .plain beyondInt64
  obtain ⟨n, hn, -, hlost⟩ := hnumber.value?
  refine ⟨hlines, hnumber, ?_, ?_⟩
  · have hentry : Line.entry? ⟨none, "x", .number (some beyondInt64)⟩ = some ("x", .number n) := by
      rw [Line.entry?, Literal.expression, hn, Option.map_some]
    rw [valuesOf_lines hlines, List.filterMap_cons, hentry, hlost rfl]
    rfl
  · rw [Number.value, Text.maxInt64]
    norm_num

end Script

end Estate
