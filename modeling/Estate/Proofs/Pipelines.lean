import Mathlib.Data.Bool.AllAny
import Mathlib.Data.List.Induction
import Mathlib.Tactic.Lemma
import Estate.Proofs.FallThrough
import Estate.Proofs.Text.Ascii
import Estate.Proofs.Text.Words

/-!
Modifiers in a row, before one that makes them superfluous.

The digits of a text are the same behind any modifiers that take away or change no digit, and so are
its words behind any that do no more than change the blanks around them.
-/

namespace Estate

namespace Modifier

open Text (isAsciiDigit isBlank wordsIn)

/-- The name of one of these modifiers, or of none. -/
def Among (allowed : List Modifier) (name : String) : Prop :=
  name ∈ allowed.map Modifier.name ∨ name ∉ knownNames

instance (allowed : List Modifier) (name : String) : Decidable (Among allowed name) :=
  inferInstanceAs (Decidable (_ ∨ _))

/-- What each of some modifiers keeps of a text is kept by any row of them. -/
lemma applyAll_keeps {β : Type} {f : List Char → β} {allowed : List Modifier}
    (hkeeps : ∀ m ∈ allowed, ∀ cs, f (m.applyChars cs) = f cs) {names : List String}
    (hnames : ∀ name ∈ names, Among allowed name) (s : String) :
    f (applyAll names s).toList = f s.toList := by
  induction names using List.reverseRecOn with
  | nil => rfl
  | append_singleton names name ih =>
    have hearlier := ih fun n hn => hnames n (List.mem_append_left _ hn)
    have hlast := hnames name (by simp)
    rw [applyAll_concat]
    rcases applyNamed?_getD name (applyAll names s) with ⟨m, rfl, h⟩ | ⟨-, h⟩
    · have hm : m ∈ allowed := by
        rcases hlast with hmem | hunknown
        · obtain ⟨n, hn, hname⟩ := List.mem_map.1 hmem
          exact name_inj hname ▸ hn
        · exact absurd (List.mem_map_of_mem (by cases m <;> decide)) hunknown
      rw [h, apply, String.toList_ofList, hkeeps m hm, hearlier]
    · rw [h, hearlier]

/-! ### Digits -/

/-- The modifiers that leave all digits in their places. -/
def digitKeepers : List Modifier :=
  [trim, removeNewline, stripPunct, collapseWhitespace, stripCurrency, digitsOnly]

lemma isAsciiDigit_of_isBlank {c : Char} (h : isBlank c) : isAsciiDigit c = false := by
  cases hdigit : isAsciiDigit c with
  | false => rfl
  | true =>
    rw [Text.isBlank_of_isAsciiDigit hdigit] at h
    cases h

lemma isBlank_of_line {c : Char} (h : c == '\r' || c == '\n') : isBlank c := by
  simp only [Bool.or_eq_true, beq_iff_eq] at h
  rcases h with rfl | rfl <;> decide

lemma digits_cons {c : Char} (h : isAsciiDigit c = false) (cs : List Char) :
    (c :: cs).filter isAsciiDigit = cs.filter isAsciiDigit :=
  List.filter_cons_of_neg (by simp [h])

lemma digits_trim (cs : List Char) :
    (Text.trim cs).filter isAsciiDigit = cs.filter isAsciiDigit := by
  have hblanks : ∀ g : List Char, (∀ c ∈ g, isBlank c) → g.filter isAsciiDigit = [] :=
    fun g hg => List.filter_eq_nil_iff.2 fun c hc => by simp [isAsciiDigit_of_isBlank (hg c hc)]
  obtain ⟨g₁, g₂, hg₁, hg₂, hsplit⟩ := Text.exists_trim cs
  conv_rhs => rw [hsplit, List.filter_append, List.filter_append, hblanks g₁ hg₁, hblanks g₂ hg₂]
  rw [List.nil_append, List.append_nil]

lemma digits_joinLines (cs : List Char) :
    (joinLines cs).filter isAsciiDigit = cs.filter isAsciiDigit := by
  have hspace : isAsciiDigit ' ' = false := by decide
  have hreturn : isAsciiDigit '\r' = false := by decide
  have hfeed : isAsciiDigit '\n' = false := by decide
  fun_induction joinLines cs with
  | case1 => rfl
  | case2 rest ih => rw [digits_cons hspace, digits_cons hreturn, digits_cons hfeed, ih]
  | case3 c rest _ ih =>
    split
    · next hline =>
      have hc : isAsciiDigit c = false := isAsciiDigit_of_isBlank (isBlank_of_line hline)
      rw [digits_cons hspace, digits_cons hc, ih]
    · rw [List.filter_cons, List.filter_cons, ih]

lemma digits_squeezeBlanks (cs : List Char) :
    (Text.squeezeBlanks cs).filter isAsciiDigit = cs.filter isAsciiDigit := by
  have hspace : isAsciiDigit ' ' = false := by decide
  fun_induction Text.squeezeBlanks cs with
  | case1 => rfl
  | case2 c hc => rw [digits_cons hspace, digits_cons (isAsciiDigit_of_isBlank hc)]
  | case3 c _ => rfl
  | case4 c d rest hc _ ih => exact ih.trans (digits_cons (isAsciiDigit_of_isBlank hc) _).symm
  | case5 c d rest hc _ ih =>
    exact (digits_cons hspace _).trans
      (ih.trans (digits_cons (isAsciiDigit_of_isBlank hc) _).symm)
  | case6 c d rest _ ih => rw [List.filter_cons, ih, ← List.filter_cons]

lemma isPunctuation_of_isAsciiDigit {c : Char} (h : isAsciiDigit c) : isPunctuation c = false := by
  have hall : ∀ n < 58, isAsciiDigit (.ofNat n) → isPunctuation (.ofNat n) = false := by decide
  have hcode := (Text.toNat_between h).2
  simp only [Char.reduceToNat] at hcode
  exact Text.forall_below (p := fun c => isAsciiDigit c → isPunctuation c = false) hall
    (by omega) h

/-- What is dropped with a currency are signs and letters, also in the code that has begun. -/
lemma digits_withoutCurrency {cs : List Char} {skip : Nat}
    (h : ∀ c ∈ cs.take skip, isAsciiDigit c = false) (before : Option Char) :
    (withoutCurrency before skip cs).filter isAsciiDigit = cs.filter isAsciiDigit := by
  have hsigns : ∀ c ∈ ['$', '£', '€', '₹', '¥'], isAsciiDigit c = false :=
    List.all_iff_forall_prop.1 (by decide)
  have hcodes : ∀ c ∈ currencyCodes.flatten, isAsciiDigit c = false :=
    List.all_iff_forall_prop.1 (by decide)
  induction cs generalizing skip before with
  | nil => simp [withoutCurrency]
  | cons c cs ih =>
    cases skip with
    | succ skip =>
      obtain ⟨hc, hrest⟩ := List.forall_mem_cons.1 h
      rw [withoutCurrency, ih hrest, digits_cons hc]
    | zero =>
      have hnone : ∀ x ∈ cs.take 0, isAsciiDigit x = false := by simp
      unfold withoutCurrency
      split
      · next hsign =>
        have hc : isAsciiDigit c = false := hsigns c (List.contains_iff_mem.1 hsign)
        rw [ih hnone, digits_cons hc]
      · split
        · next hcode =>
          have hmem : c :: cs.take 2 ∈ currencyCodes := by
            simp only [startsWithCode, Bool.and_eq_true] at hcode
            exact List.contains_iff_mem.1 hcode.1.2
          obtain ⟨hc, hrest⟩ := List.forall_mem_cons.1 fun x hx =>
            hcodes x (List.mem_flatten_of_mem hmem hx)
          rw [ih hrest, digits_cons hc]
        · rw [List.filter_cons, List.filter_cons, ih hnone]

lemma digits_kept {m : Modifier} (h : m ∈ digitKeepers) (cs : List Char) :
    (m.applyChars cs).filter isAsciiDigit = cs.filter isAsciiDigit := by
  have hnone : ∀ c ∈ cs.take 0, isAsciiDigit c = false := by simp
  cases m with
  | trim => exact digits_trim cs
  | removeNewline => exact (digits_trim _).trans (digits_joinLines cs)
  | stripPunct =>
    rw [applyChars, List.filter_filter]
    refine List.filter_congr fun c _ => ?_
    cases hc : isAsciiDigit c with
    | false => rfl
    | true => rw [isPunctuation_of_isAsciiDigit hc]; rfl
  | collapseWhitespace => exact (digits_squeezeBlanks _).trans (digits_trim cs)
  | stripCurrency => exact (digits_trim _).trans (digits_withoutCurrency hnone none)
  | digitsOnly => rw [applyChars, List.filter_filter]; simp
  | _ => exact absurd h (by decide)

/-! ### Words -/

/-- The modifiers that change nothing but blanks, and leave some between words. -/
def wordKeepers : List Modifier := [trim, removeNewline, collapseWhitespace]

lemma sameWords_joinLines (cs : List Char) : Text.SameWords (joinLines cs) cs := by
  have hspace : isBlank ' ' := by decide
  have hreturn : isBlank '\r' := by decide
  have hfeed : isBlank '\n' := by decide
  fun_induction joinLines cs with
  | case1 => exact .refl []
  | case2 rest ih =>
    exact .blank hspace hreturn (ih.words.trans (Text.wordsIn_cons_blank hfeed rest).symm)
  | case3 c rest _ ih =>
    split
    · next hline => exact .blank hspace (isBlank_of_line hline) ih.words
    · exact ih.cons c

lemma words_kept {m : Modifier} (h : m ∈ wordKeepers) (cs : List Char) :
    wordsIn (m.applyChars cs) = wordsIn cs := by
  cases m with
  | trim => exact Text.wordsIn_trim cs
  | removeNewline => exact (Text.wordsIn_trim _).trans (sameWords_joinLines cs).words
  | collapseWhitespace =>
    exact (Text.sameWords_squeezeBlanks _).words.trans (Text.wordsIn_trim cs)
  | _ => exact absurd h (by decide)

lemma applyAll_modifier (names : List String) (m : Modifier) (s : String) :
    applyAll (names ++ [m.name]) s = m.apply (applyAll names s) := by
  have hknown : ofName? m.name = some m := ofName?_eq_some.2 rfl
  rw [applyAll_concat, applyNamed?, hknown, Option.map_some, Option.getD_some]

/-- **What modifiers before the last one do not matter for**: modifiers that keep the digits, before
the one that leaves nothing else, and modifiers that keep the words, before the one that puts single
spaces between them. -/
theorem pipelines_absorbed (names : List String) (s : String) :
    ((∀ name ∈ names, Among digitKeepers name) →
      applyAll (names ++ [digitsOnly.name]) s = .ofList (s.toList.filter isAsciiDigit)) ∧
    ((∀ name ∈ names, Among wordKeepers name) →
      applyAll (names ++ [collapseWhitespace.name]) s =
        .ofList ([' '].intercalate (wordsIn s.toList))) := by
  refine ⟨fun h => ?_, fun h => ?_⟩
  · rw [applyAll_modifier, apply, applyChars, applyAll_keeps (fun m hm => digits_kept hm) h]
  · rw [applyAll_modifier, apply, applyChars, Text.squeezeBlanks_trim,
      applyAll_keeps (fun m hm => words_kept hm) h]

theorem pipelines_absorbed_price :
    let digits := ["stripCurrency", "polish", "removeNewline", "stripPunct"]
    let words := ["removeNewline", "polish", "trim"]
    (∀ name ∈ digits, Among digitKeepers name) ∧ (∀ name ∈ words, Among wordKeepers name) ∧
      applyAll (digits ++ ["digitsOnly"]) "€ 1.200\r\n/ 7 EUR" = "12007" ∧
      applyAll (words ++ ["collapseWhitespace"]) " Two \r\n\u00a0rooms\t" = "Two rooms" := by
  intro digits words
  have hdigits : ∀ name ∈ digits, Among digitKeepers name := by decide
  have hwords : ∀ name ∈ words, Among wordKeepers name := by decide
  refine ⟨hdigits, hwords, ?_, ?_⟩
  · exact (pipelines_absorbed digits _).1 hdigits
  · exact (pipelines_absorbed words _).2 hwords

end Modifier

end Estate
