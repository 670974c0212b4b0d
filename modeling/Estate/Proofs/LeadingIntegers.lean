import Mathlib.Data.Bool.AllAny
import Estate.FieldValue
import Estate.Modifier
import Estate.Proofs.Json.PrintedNumber
import Estate.Proofs.Text.Content

/-!
The integers that texts start with.

Digits of all writing systems are taken for the digits of the number, and only ASCII digits can be
read. So an integer in front of a text is read as it is, with blanks and a sign in front, unless it
runs into a digit of another writing system, and then nothing is read. An integer by itself is
always read, which is why taking the integer of a text twice is taking it once.
-/

namespace Estate

namespace Text

section

variable {g s ds body sign : List Char} {n : Int}

/-! ### Where the digits end -/

/-- Blanks at the end of a text are no digits. -/
lemma takeWhile_trimEnd (s : List Char) :
    (trimEnd s).takeWhile isDecimalDigit = s.takeWhile isDecimalDigit := by
  obtain ⟨blanks, hblanks, hs⟩ := exists_trimEnd s
  have hnone : ∀ c ∈ blanks, isDecimalDigit c = false := fun c hc =>
    isDecimalDigit_of_isBlank (hblanks c hc)
  conv_rhs => rw [hs, takeWhile_append_of_none hnone]

/-- Behind characters that are no blanks only the end of a text is trimmed. -/
lemma trim_append_of_all (hg : ∀ c ∈ g, isBlank c) (hds : ∀ c ∈ ds, isBlank c = false)
    (hne : ds ≠ []) (s : List Char) : trim (g ++ (ds ++ s)) = ds ++ trimEnd s := by
  obtain ⟨blanks, hblanks, hs⟩ := exists_trimEnd s
  have htight : Tight (ds ++ trimEnd s) := by
    constructor
    · rw [List.head?_append_of_ne_nil _ hne]
      exact (tight_of_all hds).head
    · rw [List.getLast?_append]
      cases hlast : (trimEnd s).getLast? with
      | none => exact (tight_of_all hds).last
      | some c => exact fun d hd => last_trimEnd s d (hlast ▸ hd)
  conv_lhs => rw [hs]
  rw [trim_blanks_append hg, ← List.append_assoc, trim_append_blanks hblanks, htight.trim]

/-! ### What is read -/

/-- A sign, or none, and whether the number is negative with it. -/
inductive Sign : List Char → Bool → Prop where
  | none : Sign [] false
  | plus : Sign ['+'] false
  | minus : Sign ['-'] true

variable {negative : Bool}

lemma spanSign_append (hsign : Sign sign negative) (hhead : ∀ c ∈ body.head?, isAsciiDigit c) :
    spanSign (sign ++ body) = (sign, body) := by
  cases hsign with
  | none =>
    rw [List.nil_append]
    unfold spanSign
    split
    · exact absurd (hhead '+' rfl) (by decide)
    · exact absurd (hhead '-' rfl) (by decide)
    · rfl
  | plus => rfl
  | minus => rfl

lemma int64?_append (hsign : Sign sign negative) (hhead : ∀ c ∈ body.head?, isAsciiDigit c) :
    int64? (sign ++ body) = if isDigits body then
      let n : Int := if negative then -(digitsValue body : Int) else digitsValue body
      if minInt64 ≤ n && n ≤ maxInt64 then some n else none
    else none := by
  cases hsign with
  | none =>
    rw [List.nil_append]
    unfold int64?
    split
    next heq =>
      split at heq
      · exact absurd (hhead '+' rfl) (by decide)
      · exact absurd (hhead '-' rfl) (by decide)
      · cases heq
        rfl
  | plus => rfl
  | minus => rfl

lemma leadingInt_append (hg : ∀ c ∈ g, isBlank c) (hsign : Sign sign negative) (hne : ds ≠ [])
    (hds : ∀ c ∈ ds, isAsciiDigit c) (s : List Char) :
    leadingInt (g ++ (sign ++ (ds ++ s))) =
      (int64? (sign ++ (ds ++ s.takeWhile isDecimalDigit))).getD 0 := by
  have hmark : ∀ c ∈ sign, isBlank c = false := by
    cases hsign with
    | none => simp
    | plus => exact List.forall_mem_singleton.2 rfl
    | minus => exact List.forall_mem_singleton.2 rfl
  have hblank : ∀ c ∈ sign ++ ds, isBlank c = false :=
    List.forall_mem_append.2 ⟨hmark, fun c hc => isBlank_of_isAsciiDigit (hds c hc)⟩
  have hhead : ∀ c ∈ (ds ++ trimEnd s).head?, isAsciiDigit c := by
    rw [List.head?_append_of_ne_nil _ hne]
    exact fun c hc => hds c (List.mem_of_head? hc)
  have htake : (ds ++ trimEnd s).takeWhile isDecimalDigit = ds ++ s.takeWhile isDecimalDigit := by
    rw [List.takeWhile_append_of_pos fun c hc => isDecimalDigit_of_isAsciiDigit (hds c hc),
      takeWhile_trimEnd]
  rw [leadingInt, ← List.append_assoc sign, trim_append_of_all hg hblank (by simp [hne]),
    List.append_assoc, spanSign_append hsign hhead]
  dsimp only
  rw [htake]

/-- A digit that is no ASCII digit spoils the number. -/
lemma int64?_foreign (hsign : Sign sign negative) (hhead : ∀ c ∈ body.head?, isAsciiDigit c)
    {c : Char} (hc : c ∈ body) (hforeign : isAsciiDigit c = false) :
    int64? (sign ++ body) = none := by
  have hdigits : ¬ isDigits body := by
    intro h
    rw [isDigits, Bool.and_eq_true, List.all_eq_true] at h
    rw [h.2 c hc] at hforeign
    cases hforeign
  rw [int64?_append hsign hhead, if_neg hdigits]

/-- An integer of 64 bits in its digits, with a sign in front. -/
lemma int64?_toDigits (hlow : minInt64 ≤ n) (hhigh : n ≤ maxInt64)
    (hsign : Sign sign (decide (n < 0))) :
    int64? (sign ++ Nat.toDigits 10 n.natAbs) = some n := by
  have hnumeral := Json.numeral_toDigits n.natAbs
  have hdigits : isDigits (Nat.toDigits 10 n.natAbs) := by
    simpa [isDigits] using hnumeral.digits
  have hvalue : (if decide (n < 0) then -(digitsValue (Nat.toDigits 10 n.natAbs) : Int)
      else digitsValue (Nat.toDigits 10 n.natAbs)) = n := by
    rw [Json.digitsValue_toDigits]
    simp only [decide_eq_true_eq]
    split <;> omega
  rw [int64?_append hsign fun c hc => hnumeral.digits c (List.mem_of_head? hc), if_pos hdigits]
  dsimp only
  rw [hvalue, if_pos (by simp [hlow, hhigh])]

/-- The characters behind the digits of an integer decide whether it is read. -/
lemma leadingInt_toDigits (hlow : minInt64 ≤ n) (hhigh : n ≤ maxInt64) (hg : ∀ c ∈ g, isBlank c)
    (hsign : Sign sign (decide (n < 0))) (hs : ∀ c ∈ s.head?, isAsciiDigit c = false) :
    leadingInt (g ++ (sign ++ (Nat.toDigits 10 n.natAbs ++ s))) =
      if s.head?.any isDecimalDigit then 0 else n := by
  have hnumeral := Json.numeral_toDigits n.natAbs
  rw [leadingInt_append hg hsign hnumeral.filled hnumeral.digits]
  cases s with
  | nil =>
    rw [List.takeWhile_nil, List.append_nil, int64?_toDigits hlow hhigh hsign]
    rfl
  | cons c s =>
    cases hc : isDecimalDigit c with
    | false =>
      rw [List.takeWhile_cons_of_neg (by simp [hc]), List.append_nil,
        int64?_toDigits hlow hhigh hsign]
      simp [hc]
    | true =>
      have hhead : ∀ d ∈ (Nat.toDigits 10 n.natAbs ++ (c :: s).takeWhile isDecimalDigit).head?,
          isAsciiDigit d := by
        rw [List.head?_append_of_ne_nil _ hnumeral.filled]
        exact fun d hd => hnumeral.digits d (List.mem_of_head? hd)
      have hmem : c ∈ Nat.toDigits 10 n.natAbs ++ (c :: s).takeWhile isDecimalDigit := by
        simp [hc]
      rw [int64?_foreign hsign hhead hmem (hs c rfl)]
      simp [hc]

lemma int64?_bounds {cs : List Char} (h : int64? cs = some n) : minInt64 ≤ n ∧ n ≤ maxInt64 := by
  unfold int64? at h
  split at h
  next negative digits _ =>
  simp only [Option.ite_none_right_eq_some, Option.some.injEq] at h
  obtain ⟨-, hrange, rfl⟩ := h
  rwa [Bool.and_eq_true, decide_eq_true_eq, decide_eq_true_eq] at hrange

lemma leadingInt_bounds (cs : List Char) : minInt64 ≤ leadingInt cs ∧ leadingInt cs ≤ maxInt64 := by
  unfold leadingInt
  dsimp only
  cases h : int64? ((spanSign (trim cs)).1 ++ (spanSign (trim cs)).2.takeWhile isDecimalDigit) with
  | none => decide
  | some n => exact int64?_bounds h

end

end Text

namespace Modifier

open Text (minInt64 maxInt64 Sign)

/-- The text of an integer is its digits with the sign it needs. -/
lemma exists_sign {n : Int} {plus : List Char} (h : plus = [] ∨ plus = ['+'] ∧ 0 ≤ n) :
    ∃ sign, Sign sign (decide (n < 0)) ∧
      plus ++ integerText n = sign ++ Nat.toDigits 10 n.natAbs := by
  unfold integerText
  split
  · next hneg =>
    obtain rfl : plus = [] := h.resolve_right fun h => absurd h.2 (by omega)
    exact ⟨['-'], by rw [decide_eq_true hneg]; exact .minus, rfl⟩
  · next hneg =>
    rw [decide_eq_false hneg]
    rcases h with rfl | ⟨rfl, -⟩
    · exact ⟨[], .none, rfl⟩
    · exact ⟨['+'], .plus, rfl⟩

lemma leadingInt_integerText {n : Int} (hlow : minInt64 ≤ n) (hhigh : n ≤ maxInt64) :
    Text.leadingInt (integerText n) = n := by
  obtain ⟨sign, hsign, htext⟩ := exists_sign (n := n) (.inl rfl)
  have h := Text.leadingInt_toDigits hlow hhigh (g := []) (by simp) hsign (s := []) (by simp)
  rw [List.append_nil, List.nil_append, ← htext, List.nil_append] at h
  exact h

/-- The modifier leaves an integer that is read as the one of the text. -/
lemma leadingInt_apply (text : String) :
    Text.leadingInt (int.apply text).toList = Text.leadingInt text.toList := by
  obtain ⟨hlow, hhigh⟩ := Text.leadingInt_bounds text.toList
  rw [apply, String.toList_ofList]
  exact leadingInt_integerText hlow hhigh

end Modifier

/-- An integer of 64 bits in front of a text is read, whatever blanks stand in front of it, and with
a plus or without where it is not negative, unless it runs into a digit that is none of ASCII: then
nothing is read. What the modifier leaves of a text is read as the text is, so it changes nothing
the second time, nor the value of a field of integers. -/
theorem leading_integer_read {n : Int} {blanks plus rest : List Char} (hlow : Text.minInt64 ≤ n)
    (hhigh : n ≤ Text.maxInt64) (hblanks : ∀ c ∈ blanks, Text.isBlank c)
    (hplus : plus = [] ∨ plus = ['+'] ∧ 0 ≤ n)
    (hrest : ∀ c ∈ rest.head?, Text.isAsciiDigit c = false) :
    Text.leadingInt (blanks ++ (plus ++ (Modifier.integerText n ++ rest))) =
        (if rest.head?.any Text.isDecimalDigit then 0 else n) ∧
      (∀ text, Modifier.int.apply (Modifier.int.apply text) = Modifier.int.apply text) ∧
      ∀ (f : Field) (text : String), f.kind = .int →
        f.valueOf (Modifier.int.apply text) = f.valueOf text := by
  refine ⟨?_, fun text => ?_, fun f text hf => ?_⟩
  · obtain ⟨sign, hsign, htext⟩ := Modifier.exists_sign hplus
    rw [← List.append_assoc plus, htext, List.append_assoc]
    exact Text.leadingInt_toDigits hlow hhigh hblanks hsign hrest
  · have hread : Text.leadingInt (Modifier.int.apply text).toList = Text.leadingInt text.toList :=
      Modifier.leadingInt_apply text
    rw [Modifier.apply, Modifier.applyChars, hread]
    rfl
  · simp only [Field.valueOf, hf, Modifier.leadingInt_apply]

/-- The least integer, with a unit behind it. -/
theorem leading_integer_read_least :
    (∀ c ∈ "\n ".toList, Text.isBlank c) ∧ (∀ c ∈ " km".toList.head?, Text.isAsciiDigit c = false) ∧
      Text.leadingInt "\n -9223372036854775808 km".toList = Text.minInt64 := by
  have hblanks : ∀ c ∈ "\n ".toList, Text.isBlank c := List.all_iff_forall_prop.1 (by decide)
  have hrest : ∀ c ∈ " km".toList.head?, Text.isAsciiDigit c = false := by
    rintro c ⟨⟩
    rfl
  have hlow : Text.minInt64 ≤ Text.minInt64 := Int.le_refl _
  have hhigh : Text.minInt64 ≤ Text.maxInt64 := by decide
  obtain ⟨hread, -⟩ := leading_integer_read hlow hhigh hblanks (.inl rfl) hrest
  have hplain : " km".toList.head?.any Text.isDecimalDigit = false := by
    decide
  have htext : "\n ".toList ++ ([] ++ (Modifier.integerText Text.minInt64 ++ " km".toList)) =
      "\n -9223372036854775808 km".toList := by
    decide +kernel
  rw [htext, hplain, if_neg Bool.false_ne_true] at hread
  exact ⟨hblanks, hrest, hread⟩

/-- A digit of Arabic script behind the digits of twelve. -/
theorem leading_integer_lost :
    Text.isAsciiDigit '٣' = false ∧ Modifier.integerText 12 = "12".toList ∧
      Text.leadingInt "12٣".toList = 0 := by
  decide +kernel

end Estate
