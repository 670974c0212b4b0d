import Mathlib.Data.List.Basic
import Mathlib.Data.List.TakeWhile
import Mathlib.Tactic.IntervalCases
import Mathlib.Tactic.Lemma
import Mathlib.Tactic.Ring
import Estate.Proofs.Text.Codes
import Estate.Text.Blank
import Estate.Text.Category
import Estate.Text.Integer
import Estate.Text.Replace

/-!
Beginnings of texts: a given one, blanks, and digits; what is cut off a text, and what is left; the
number that digits write.
-/

namespace Estate.Text

lemma after?_eq_some {start cs rest : List Char} :
    after? start cs = some rest ↔ cs = start ++ rest := by
  induction start generalizing cs with
  | nil => simp [after?, eq_comm]
  | cons p start ih =>
    cases cs with
    | nil => simp [after?]
    | cons c cs =>
      unfold after?
      by_cases h : p = c
      · simp [h, ih]
      · simp [h, Ne.symm h]

lemma after?_append (start rest : List Char) : after? start (start ++ rest) = some rest :=
  after?_eq_some.2 rfl

/-- A text is cut where the character stands first. -/
lemma cutAt?_eq_some {sep : Char} {cs before behind : List Char} :
    cutAt? [sep] cs = some (before, behind) ↔ sep ∉ before ∧ cs = before ++ sep :: behind := by
  induction cs generalizing before with
  | nil => simp [cutAt?]
  | cons c cs ih =>
    unfold cutAt?
    by_cases hc : sep = c
    · subst hc
      have hafter : after? [sep] (sep :: cs) = some cs := after?_append [sep] cs
      rw [hafter]
      cases before with
      | nil => simp [eq_comm]
      | cons b before =>
        simp only [Option.some.injEq, Prod.mk.injEq, reduceCtorEq, false_and, false_iff, not_and,
          List.mem_cons, not_or, List.cons_append, List.cons.injEq]
        rintro ⟨hne, -⟩ heq
        exact absurd heq hne
    · have hafter : after? [sep] (c :: cs) = none := by simp [after?, hc]
      rw [hafter]
      simp only [Option.map_eq_some_iff, Prod.exists, Prod.mk.injEq]
      constructor
      · rintro ⟨rest, rest', hcut, rfl, rfl⟩
        obtain ⟨hnot, rfl⟩ := ih.1 hcut
        exact ⟨by simp [hc, hnot], rfl⟩
      · rintro ⟨hnot, heq⟩
        cases before with
        | nil =>
          obtain ⟨rfl, -⟩ := List.cons.inj heq
          exact absurd rfl hc
        | cons b before =>
          obtain ⟨rfl, rfl⟩ := List.cons.inj heq
          exact ⟨before, behind, ih.2 ⟨fun h => hnot (List.mem_cons_of_mem _ h), rfl⟩, rfl, rfl⟩

section

variable {kind : Char → Bool} {g rest : List Char}

lemma dropWhile_append_of_all (hg : ∀ c ∈ g, kind c) (hrest : ∀ c ∈ rest.head?, kind c = false) :
    (g ++ rest).dropWhile kind = rest := by
  rw [List.dropWhile_append_of_pos hg]
  cases rest with
  | nil => rfl
  | cons c rest => rw [List.dropWhile_cons_of_neg (by simp [hrest c rfl])]

lemma takeWhile_append_of_all (hg : ∀ c ∈ g, kind c) (hrest : ∀ c ∈ rest.head?, kind c = false) :
    (g ++ rest).takeWhile kind = g := by
  rw [List.takeWhile_append_of_pos hg]
  cases rest with
  | nil => simp
  | cons c rest => rw [List.takeWhile_cons_of_neg (by simp [hrest c rfl]), List.append_nil]

lemma takeWhile_append_of_none (hrest : ∀ c ∈ rest, kind c = false) :
    (g ++ rest).takeWhile kind = g.takeWhile kind := by
  have hnone : rest.takeWhile kind = [] := by
    cases rest with
    | nil => rfl
    | cons c rest => exact List.takeWhile_cons_of_neg (by simp [hrest c List.mem_cons_self])
  rw [List.takeWhile_append, hnone, List.append_nil]
  split
  · next hall => exact ((List.takeWhile_prefix kind).eq_of_length hall).symm
  · rfl

lemma head?_dropWhile (kind : Char → Bool) (cs : List Char) :
    ∀ c ∈ (cs.dropWhile kind).head?, kind c = false := by
  intro c hc
  have h := List.head?_dropWhile_not kind cs
  rw [Option.mem_def.1 hc] at h
  exact h

lemma drop_takeWhile (kind : Char → Bool) (cs : List Char) :
    cs.drop (cs.takeWhile kind).length = cs.dropWhile kind :=
  calc cs.drop (cs.takeWhile kind).length
      = (cs.takeWhile kind ++ cs.dropWhile kind).drop (cs.takeWhile kind).length := by
        rw [List.takeWhile_append_dropWhile]
    _ = cs.dropWhile kind := List.drop_left

/-- A text is what there is of a kind at its start, and what is left. -/
lemma exists_split (kind : Char → Bool) (cs : List Char) :
    ∃ g, (∀ c ∈ g, kind c) ∧ cs = g ++ cs.dropWhile kind :=
  ⟨cs.takeWhile kind, fun _ => List.mem_takeWhile_imp, List.takeWhile_append_dropWhile.symm⟩

end

/-! ### Blanks -/

/-- The codes of blanks. -/
def blankCodes : List Nat :=
  [0x20, 0x09, 0x0A, 0x0B, 0x0C, 0x0D, 0x85, 0xA0, 0x1680, 0x2000, 0x2001, 0x2002, 0x2003, 0x2004,
    0x2005, 0x2006, 0x2007, 0x2008, 0x2009, 0x200A, 0x2028, 0x2029, 0x202F, 0x205F, 0x3000]

lemma toNat_between {a b c : Char} (h : (a ≤ c && c ≤ b) = true) :
    a.toNat ≤ c.toNat ∧ c.toNat ≤ b.toNat := by
  simpa [Char.le_def, UInt32.le_iff_toNat_le] using h

/-- No character is half of a surrogate pair. -/
lemma toNat_not_surrogate (c : Char) : ¬ (0xD800 ≤ c.toNat ∧ c.toNat < 0xE000) := by
  have hvalid := c.valid
  simp only [UInt32.isValidChar, Nat.isValidChar] at hvalid
  have htoNat : c.toNat = c.val.toNat := rfl
  omega

lemma mem_blankCodes {c : Char} (h : isBlank c) : c.toNat ∈ blankCodes := by
  simp only [isBlank, Bool.or_eq_true, beq_iff_eq] at h
  rcases h with (((((((((rfl | h) | rfl) | rfl) | rfl) | h) | rfl) | rfl) | rfl) | rfl) | rfl
  case inl.inl.inl.inl.inl.inl.inl.inl.inl.inr =>
    obtain ⟨hlow, hhigh⟩ := toNat_between h
    simp only [Char.reduceToNat] at hlow hhigh
    interval_cases c.toNat <;> decide
  case inl.inl.inl.inl.inl.inr =>
    obtain ⟨hlow, hhigh⟩ := toNat_between h
    simp only [Char.reduceToNat] at hlow hhigh
    interval_cases c.toNat <;> decide
  all_goals decide

/-- What holds of the blanks one by one. -/
lemma forall_blank {p : Char → Prop} (h : ∀ n ∈ blankCodes, p (Char.ofNat n)) {c : Char}
    (hc : isBlank c) : p c := by
  have hn := h _ (mem_blankCodes hc)
  rwa [Char.ofNat_toNat] at hn

/-- The categories of blanks. -/
def separates : GeneralCategory → Bool
  | .zs | .zl | .zp | .cc => true
  | _ => false

/-- What the tables say of blanks. -/
lemma blank_tables : Runs.avoids (bitsOf blankCodes) (!separates ·) .cn 0 categoryRuns ∧
    ∀ n ∈ blankCodes, Ranges.covers otherAlphabetic (Char.ofNat n).toNat = false ∧
      Char.ofNat n ≠ '\u200c' ∧ Char.ofNat n ≠ '\u200d' := by
  decide +kernel

lemma separates_of_isBlank {c : Char} (h : isBlank c) : separates (category c) := by
  cases hc : separates (category c) with
  | true => rfl
  | false =>
    have hother : !separates (category c) := by rw [hc]; rfl
    have hbit := Runs.not_testBit blank_tables.1 (Nat.zero_le c.toNat) hother
    rw [testBit_bitsOf.2 (mem_blankCodes h)] at hbit
    cases hbit

lemma isWord_of_isBlank {c : Char} (h : isBlank c) : isWord c = false := by
  have hascii : ∀ n ∈ blankCodes, isAscii (.ofNat n) → isWord (.ofNat n) = false := by decide
  cases hc : isAscii c with
  | true => exact forall_blank (p := fun c => isAscii c → isWord c = false) hascii h hc
  | false =>
    obtain ⟨halphabetic, hjoiners⟩ := forall_blank (p := fun c =>
      Ranges.covers otherAlphabetic c.toNat = false ∧ c ≠ '\u200c' ∧ c ≠ '\u200d')
      blank_tables.2 h
    have hcategory := separates_of_isBlank h
    simp only [isWord, isAlphabetic, isMark, hc, halphabetic]
    generalize category c = g at hcategory
    cases g <;> simp_all [separates, GeneralCategory.isLetter, GeneralCategory.isMark]

lemma isBlank_of_isWord {c : Char} (h : isWord c) : isBlank c = false := by
  cases hblank : isBlank c with
  | false => rfl
  | true =>
    rw [isWord_of_isBlank hblank] at h
    cases h

lemma isWord_of_isDecimalDigit {c : Char} (h : isDecimalDigit c) : isWord c := by
  unfold isDecimalDigit at h
  unfold isWord
  split at h
  · next hascii => simp [hascii, isAsciiAlphanumeric, h]
  · next hascii => simp [hascii, h]

lemma isDecimalDigit_of_isBlank {c : Char} (h : isBlank c) : isDecimalDigit c = false := by
  cases hdigit : isDecimalDigit c with
  | false => rfl
  | true =>
    rw [isBlank_of_isWord (isWord_of_isDecimalDigit hdigit)] at h
    cases h

lemma isDecimalDigit_of_isAsciiDigit {c : Char} (h : isAsciiDigit c) : isDecimalDigit c := by
  have hcode := (toNat_between h).2
  have hascii : isAscii c := by
    simp only [Char.reduceToNat] at hcode
    simp only [isAscii, decide_eq_true_eq]
    omega
  rw [isDecimalDigit, if_pos hascii]
  exact h

/-! ### Trimming -/

section

variable {cs g : List Char}

lemma trimEnd_append (hg : ∀ c ∈ g, isBlank c) : trimEnd (cs ++ g) = trimEnd cs := by
  have hback : ∀ c ∈ g.reverse, isBlank c := fun c hc => hg c (List.mem_reverse.1 hc)
  rw [trimEnd, trimEnd, List.reverse_append, List.dropWhile_append_of_pos hback]

lemma trimStart_append (hg : ∀ c ∈ g, isBlank c) : trimStart (g ++ cs) = trimStart cs :=
  List.dropWhile_append_of_pos hg

/-- Blanks behind a text are trimmed. -/
lemma trim_append_blanks (hg : ∀ c ∈ g, isBlank c) : trim (cs ++ g) = trim cs := by
  by_cases h : cs.dropWhile isBlank = []
  · have hall : ∀ c ∈ cs, isBlank c := List.dropWhile_eq_nil_iff.1 h
    have hmore : trimStart (cs ++ g) = [] := by
      rw [trimStart_append hall, trimStart, List.dropWhile_eq_nil_iff.2 hg]
    rw [trim, trim, hmore, trimStart, h]
  · have hmore : trimStart (cs ++ g) = trimStart cs ++ g := by
      rw [trimStart, List.dropWhile_append, if_neg (by simpa using h), trimStart]
    rw [trim, trim, hmore, trimEnd_append hg]

lemma trim_blanks_append (hg : ∀ c ∈ g, isBlank c) : trim (g ++ cs) = trim cs := by
  rw [trim, trim, trimStart_append hg]

lemma exists_trimEnd (cs : List Char) : ∃ g, (∀ c ∈ g, isBlank c) ∧ cs = trimEnd cs ++ g := by
  obtain ⟨g, hg, hsplit⟩ := exists_split isBlank cs.reverse
  refine ⟨g.reverse, fun c hc => hg c (List.mem_reverse.1 hc), ?_⟩
  rw [trimEnd, ← List.reverse_append, ← hsplit, List.reverse_reverse]

lemma last_trimEnd (cs : List Char) : ∀ c ∈ (trimEnd cs).getLast?, isBlank c = false := by
  rw [trimEnd, List.getLast?_reverse]
  exact head?_dropWhile isBlank cs.reverse

/-- A text is what is left of it when it is trimmed, with blanks around. -/
lemma exists_trim (cs : List Char) :
    ∃ g₁ g₂, (∀ c ∈ g₁, isBlank c) ∧ (∀ c ∈ g₂, isBlank c) ∧ cs = g₁ ++ (trim cs ++ g₂) := by
  obtain ⟨g₁, hg₁, hstart⟩ := exists_split isBlank cs
  obtain ⟨g₂, hg₂, hend⟩ := exists_trimEnd (cs.dropWhile isBlank)
  refine ⟨g₁, g₂, hg₁, hg₂, ?_⟩
  rw [trim, trimStart, ← hend]
  exact hstart

/-- No blanks are around the text. -/
structure Tight (cs : List Char) : Prop where
  head : ∀ c ∈ cs.head?, isBlank c = false
  last : ∀ c ∈ cs.getLast?, isBlank c = false

lemma tight_trim (cs : List Char) : Tight (trim cs) where
  head := by
    obtain ⟨g, -, hsplit⟩ := exists_trimEnd (trimStart cs)
    intro c hc
    refine head?_dropWhile isBlank cs c ?_
    rw [← trimStart, hsplit]
    exact List.mem_head?_append_of_mem_head? hc
  last := last_trimEnd (trimStart cs)

lemma tight_of_all (h : ∀ c ∈ cs, isBlank c = false) : Tight cs where
  head := fun c hc => h c (List.mem_of_head? hc)
  last := fun c hc => h c (List.mem_of_getLast? hc)

lemma dropWhile_of_head (h : ∀ c ∈ cs.head?, isBlank c = false) : cs.dropWhile isBlank = cs :=
  dropWhile_append_of_all (g := []) (by simp) h

lemma trimEnd_of_last (h : ∀ c ∈ cs.getLast?, isBlank c = false) : trimEnd cs = cs := by
  rw [trimEnd, dropWhile_of_head (by rwa [List.head?_reverse]), List.reverse_reverse]

lemma Tight.trim (h : Tight cs) : trim cs = cs := by
  rw [Text.trim, trimStart, dropWhile_of_head h.head, trimEnd_of_last h.last]

/-- Where a text without blanks around follows one that does not end in a blank, only what is before
them is trimmed. -/
lemma Tight.trim_append {ds : List Char} (h : Tight ds) (hne : ds ≠ [])
    (hcs : ∀ c ∈ cs.getLast?, isBlank c = false) : Text.trim (cs ++ ds) = Text.trim cs ++ ds := by
  obtain ⟨g, hg, hsplit⟩ := exists_split isBlank cs
  have hstart : trimStart (cs ++ ds) = trimStart cs ++ ds := by
    rw [trimStart, List.dropWhile_append]
    split
    · next hall =>
      rw [dropWhile_of_head h.head, trimStart, List.isEmpty_iff.1 hall, List.nil_append]
    · rfl
  have hback : ∀ c ∈ (trimStart cs).getLast?, isBlank c = false := by
    intro c hc
    refine hcs c ?_
    rw [hsplit, List.getLast?_append, ← trimStart, hc]
    rfl
  have hlast : ∀ c ∈ (trimStart cs ++ ds).getLast?, isBlank c = false := by
    rw [List.getLast?_append_of_ne_nil _ hne]
    exact h.last
  rw [Text.trim, Text.trim, hstart, trimEnd_of_last hlast, trimEnd_of_last hback]

end

/-! ### The number of digits -/

lemma foldl_digits (digits : List Char) (n : Nat) :
    digits.foldl (fun n c => n * 10 + (c.toNat - 48)) n =
      n * 10 ^ digits.length + digitsValue digits := by
  induction digits generalizing n with
  | nil => simp [digitsValue]
  | cons d digits ih =>
    rw [digitsValue, List.foldl_cons, List.foldl_cons, ih, ih (0 * 10 + (d.toNat - 48)),
      List.length_cons, Nat.pow_succ]
    ring

lemma digitsValue_append (ds es : List Char) :
    digitsValue (ds ++ es) = digitsValue ds * 10 ^ es.length + digitsValue es := by
  rw [digitsValue, List.foldl_append, foldl_digits, ← digitsValue]

end Estate.Text
