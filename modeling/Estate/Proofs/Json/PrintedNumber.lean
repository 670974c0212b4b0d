import Mathlib.Data.List.TakeDrop
import Mathlib.Data.List.TakeWhile
import Estate.Proofs.Json.Spelling

/-!
Printed numbers are bare words. Integers are read back from them; of a float that is said only where
it is so.
-/

namespace Estate.Json

section

variable {c : Char}

lemma isAsciiDigit_of_isDigit (h : c.isDigit) : Text.isAsciiDigit c := by
  simpa [Char.isDigit, Text.isAsciiDigit, Char.le_def] using h

lemma isAsciiDigit_of_mem_toDigits {n : Nat} (h : c ∈ Nat.toDigits 10 n) : Text.isAsciiDigit c :=
  isAsciiDigit_of_isDigit (Nat.isDigit_of_mem_toDigits (by decide) (by decide) h)

lemma isNumberChar_of_isAsciiDigit (h : Text.isAsciiDigit c) : isNumberChar c := by
  simp [isNumberChar, h]

end

/-- Digits without a superfluous zero. -/
structure Numeral (ds : List Char) : Prop where
  filled : ds ≠ []
  digits : ∀ c ∈ ds, Text.isAsciiDigit c
  lean : ds.length = 1 ∨ ds.head? ≠ some '0'

lemma head?_toDigits {n : Nat} (h : 0 < n) : (Nat.toDigits 10 n).head? ≠ some '0' := by
  induction n using Nat.strongRecOn with
  | ind n ih =>
    rcases Nat.lt_or_ge n 10 with hn | hn
    · rw [Nat.toDigits_of_lt_base hn]
      have hdigit : ∀ m < 10, 0 < m → some (Nat.digitChar m) ≠ some '0' := by decide
      exact hdigit n hn h
    · rw [Nat.toDigits_of_base_le (by decide) hn, List.head?_append_of_ne_nil _ Nat.toDigits_ne_nil]
      exact ih (n / 10) (by omega) (by omega)

lemma numeral_toDigits (n : Nat) : Numeral (Nat.toDigits 10 n) where
  filled := Nat.toDigits_ne_nil
  digits := fun _ => isAsciiDigit_of_mem_toDigits
  lean := by
    rcases Nat.eq_zero_or_pos n with rfl | h
    · exact .inl rfl
    · exact .inr (head?_toDigits h)

lemma digitsValue_toDigits (n : Nat) : Text.digitsValue (Nat.toDigits 10 n) = n := by
  have h : Text.digitsValue (Nat.toDigits 10 n) = Nat.ofDigitChars 10 (Nat.toDigits 10 n) 0 := by
    rw [Text.digitsValue, Nat.ofDigitChars_eq_foldl]
    congr 1
    funext m c
    rw [Nat.mul_comm]
    rfl
  rw [h, Nat.ofDigitChars_ten_toDigits]

lemma spanDigits_digits {ds : List Char} (h : ∀ c ∈ ds, Text.isAsciiDigit c) :
    Binary64.spanDigits ds = (ds, []) := by
  rw [Binary64.spanDigits, List.span_eq_takeWhile_dropWhile, List.takeWhile_eq_self_iff.2 h,
    List.dropWhile_eq_nil_iff.2 h]

namespace Lexeme

lemma ofChars?_numeral {ds : List Char} (h : Numeral ds) :
    ofChars? ds = some ⟨false, ds, none, none⟩ ∧
      ofChars? ('-' :: ds) = some ⟨true, ds, none, none⟩ := by
  obtain ⟨hne, hdigits, hlean⟩ := h
  have hsign : ∀ rest, ds ≠ '-' :: rest := by
    rintro rest rfl
    exact absurd (hdigits '-' (by simp)) (by decide)
  have hok : (!ds.isEmpty && (ds.length == 1 || ds.head? != some '0')) = true := by
    simpa [hne] using hlean
  constructor
  · unfold ofChars?
    split
    next negative body hbody =>
    split at hbody
    · next rest => exact absurd rfl (hsign rest)
    · cases hbody
      simp [spanDigits_digits hdigits, hok]
  · simp [ofChars?, spanDigits_digits hdigits, hok]

end Lexeme

namespace Number

/-- The number is read from its text. -/
def ReadsBack (n : Number) : Prop :=
  ∃ l, Lexeme.ofChars? n.render = some l ∧ l.number? = some n

/-- The integers that numbers are made of. -/
def InRange : Number → Prop
  | int n => -2 ^ 63 ≤ n ∧ n < 2 ^ 64
  | float _ => True

lemma readsBack_int {n : Int} (h : (int n).InRange) : (int n).ReadsBack := by
  obtain ⟨hlow, hhigh⟩ := h
  have hnum : Numeral (Nat.toDigits 10 n.natAbs) := numeral_toDigits n.natAbs
  rcases Int.lt_or_le n 0 with hn | hn
  · refine ⟨⟨true, Nat.toDigits 10 n.natAbs, none, none⟩, ?_, ?_⟩
    · rw [render, if_pos hn]
      exact (Lexeme.ofChars?_numeral hnum).2
    · have habs : (0 < n.natAbs && n.natAbs ≤ 2 ^ 63) = true := by
        rw [Bool.and_eq_true, decide_eq_true_eq, decide_eq_true_eq]
        omega
      simp only [Lexeme.number?, digitsValue_toDigits, Option.isSome_none, Bool.or_self,
        Bool.false_eq_true, if_false, if_true, habs]
      congr
      omega
  · refine ⟨⟨false, Nat.toDigits 10 n.natAbs, none, none⟩, ?_, ?_⟩
    · rw [render, if_neg (by omega)]
      exact (Lexeme.ofChars?_numeral hnum).1
    · have habs : n.natAbs < 2 ^ 64 := by omega
      simp only [Lexeme.number?, digitsValue_toDigits, Option.isSome_none, Bool.or_self,
        Bool.false_eq_true, if_false, habs, if_true]
      congr
      omega

/-- The characters of printed numbers. -/
def Plain (cs : List Char) : Prop := ∀ c ∈ cs, isNumberChar c

lemma plain_of_all {cs : List Char} (h : cs.all isNumberChar = true) : Plain cs :=
  List.all_eq_true.1 h

lemma plain_digits {ds : List Char} (h : ∀ c ∈ ds, Text.isAsciiDigit c) : Plain ds :=
  fun c hc => isNumberChar_of_isAsciiDigit (h c hc)

lemma Plain.append {cs ds : List Char} (hc : Plain cs) (hd : Plain ds) : Plain (cs ++ ds) := by
  intro c h
  rcases List.mem_append.1 h with h | h
  · exact hc c h
  · exact hd c h

lemma digits_shortestFrom (x : Binary64) (k : Int) (fuel n : Nat) :
    ∀ c ∈ (x.shortestFrom k fuel n).digits, Text.isAsciiDigit c := by
  induction fuel generalizing n with
  | zero => simp [Binary64.shortestFrom, Text.isAsciiDigit]
  | succ fuel ih =>
    rw [Binary64.shortestFrom]
    split
    · exact fun _ => isAsciiDigit_of_mem_toDigits
    · exact ih (n + 1)

lemma digits_shortest (x : Binary64) : ∀ c ∈ x.shortest.digits, Text.isAsciiDigit c := by
  intro c hc
  simp only [Binary64.shortest, Binary64.dropTrailingZeros] at hc
  have hmem := (List.dropWhile_sublist _).subset (List.mem_reverse.1 hc)
  exact digits_shortestFrom _ _ _ _ c (List.mem_reverse.1 hmem)

lemma plain_zeros (n : Nat) : Plain (Binary64.zeros n) := by
  intro c hc
  rw [List.eq_of_mem_replicate hc]
  decide

lemma plain_positional {d : Binary64.Decimal} (h : Plain d.digits) :
    Plain (Binary64.positionalText d ['.', '0']) := by
  have htail : Plain ['.', '0'] := plain_of_all rfl
  have hpoint : Plain ['.'] := plain_of_all rfl
  have hlead : Plain ['0', '.'] := plain_of_all rfl
  simp only [Binary64.positionalText]
  split
  · exact (h.append (plain_zeros _)).append htail
  · split
    · refine (Plain.append ?_ hpoint).append ?_
      · exact fun c hc => h c (List.mem_of_mem_take hc)
      · exact fun c hc => h c (List.mem_of_mem_drop hc)
    · exact (hlead.append (plain_zeros _)).append h

lemma plain_scientific {d : Binary64.Decimal} (h : Plain d.digits) :
    Plain (Binary64.scientificText d) := by
  have hpoint : isNumberChar '.' := by decide
  have hexp : isNumberChar 'e' := by decide
  have hsign : ∀ b : Bool, isNumberChar (if b then '-' else '+') := by decide
  unfold Binary64.scientificText
  refine (Plain.append (Plain.append ?_ ?_) ?_).append ?_
  · exact fun c hc => h c (List.mem_of_mem_take hc)
  · split
    · exact fun c hc => nomatch hc
    · intro c hc
      rcases List.mem_cons.1 hc with rfl | hc
      · exact hpoint
      · exact h c (List.mem_of_mem_drop hc)
  · intro c hc
    rcases List.mem_cons.1 hc with rfl | hc
    · exact hexp
    · rw [List.mem_singleton.1 hc]
      simpa using hsign (decide (d.exponent + d.digits.length - 1 < 0))
  · exact plain_digits fun _ => isAsciiDigit_of_mem_toDigits

lemma plain_float (x : Binary64) : Plain (x.render floatLayout) := by
  have hdigits : Plain x.shortest.digits := plain_digits (digits_shortest x)
  have hsign : Plain (if x.negative then ['-'] else []) := by
    cases x.negative <;> exact plain_of_all rfl
  have hzero : Plain ['0'] := plain_of_all rfl
  have htail : Plain floatLayout.integralTail := plain_of_all rfl
  simp only [Binary64.render]
  split
  · exact (hsign.append hzero).append htail
  · refine hsign.append ?_
    split
    · exact plain_positional hdigits
    · exact plain_scientific hdigits

lemma plain_render (n : Number) : Plain n.render := by
  cases n with
  | int n =>
    have hdigits : Plain (Nat.toDigits 10 n.natAbs) :=
      plain_digits fun _ => isAsciiDigit_of_mem_toDigits
    have hminus : Plain ['-'] := plain_of_all rfl
    rw [render]
    split
    · exact hminus.append hdigits
    · exact hdigits
  | float x => exact plain_float x

lemma float_ne_nil (x : Binary64) : x.render floatLayout ≠ [] := by
  have hpositional : ∀ d : Binary64.Decimal, Binary64.positionalText d ['.', '0'] ≠ [] := by
    intro d
    simp only [Binary64.positionalText]
    split
    · simp
    · split <;> simp
  have hscientific : ∀ d : Binary64.Decimal, Binary64.scientificText d ≠ [] := by
    simp [Binary64.scientificText]
  simp only [Binary64.render]
  split
  · simp
  · intro h
    have hbody := (List.append_eq_nil_iff.1 h).2
    split at hbody
    · exact hpositional _ hbody
    · exact hscientific _ hbody

lemma bare_render (n : Number) : Bare n.render := by
  refine ⟨?_, fun c hc => ?_⟩
  · cases n with
    | int n =>
      rw [render]
      split <;> simp
    | float x => exact float_ne_nil x
  · simp [isBare, plain_render n c hc]

end Number

/-- A number starts with a digit or a minus sign. -/
lemma Lexeme.head_of_ofChars? {cs : List Char} {l : Lexeme} (h : ofChars? cs = some l) :
    ∃ c rest, cs = c :: rest ∧ (Text.isAsciiDigit c || c == '-') = true := by
  cases cs with
  | nil => cases h
  | cons c rest =>
    refine ⟨c, rest, rfl, ?_⟩
    by_contra hc
    obtain ⟨hdigit, hminus⟩ : Text.isAsciiDigit c = false ∧ c ≠ '-' := by simpa using hc
    have hspan : Binary64.spanDigits (c :: rest) = ([], c :: rest) := by
      simp [Binary64.spanDigits, List.span_eq_takeWhile_dropWhile, hdigit]
    unfold ofChars? at h
    split at h
    next negative body hbody =>
    split at hbody
    · next heq => exact hminus (List.cons.inj heq).1
    · cases hbody
      simp [hspan] at h

lemma Scan.start_number {s : Scan} {c : Char} (h : (Text.isAsciiDigit c || c == '-') = true) :
    s.start c = some { s with mode := .number [c] } := by
  have hbare : isBare c := isBare_of_number_start h
  have hquote : c ≠ '"' := by
    rintro rfl
    cases h
  rw [Scan.start_other (isGap_of_isBare hbare) (isMark_of_isBare hbare) hquote, if_pos h]

/-- The text of a number that is read back is one token. -/
lemma tokens?_number {n : Number} (h : n.ReadsBack) :
    tokens? n.render = some [.number (some n)] := by
  obtain ⟨l, hl, hn⟩ := h
  obtain ⟨c, rest, hcs, hc⟩ := Lexeme.head_of_ofChars? hl
  have hplain := n.plain_render
  rw [hcs] at hl hplain ⊢
  have hstart : Scan.step ⟨[], .gap⟩ c = some ⟨[], .number [c]⟩ := Scan.start_number hc
  have hfold : (c :: rest).foldlM Scan.step ⟨[], .gap⟩ =
      some ⟨[], .number (rest.reverse ++ [c])⟩ := by
    rw [List.foldlM_cons, hstart]
    exact run_number.foldlM (fun d hd => hplain d (by simp [hd])) [] [c]
  rw [tokens?, hfold]
  simp [Scan.settle, hl, hn]

end Estate.Json
