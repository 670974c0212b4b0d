import Mathlib.Data.Bool.AllAny
import Mathlib.Data.List.Infix
import Mathlib.Tactic.SplitIfs
import Estate.Proofs.Text.Ascii
import Estate.Proofs.Text.Codes
import Estate.Proofs.Text.Cutting
import Estate.Text.Case

/-!
Small letters.

Blanks are left as they are, and nothing else becomes one. A blank ends the word before it, so two
texts with a blank between them are put in small letters each by itself, and the blanks around a
text do not matter. Small letters stay as they are, and so does a text that is made of them.
-/

namespace Estate.Text

variable {c d : Char} {before cs ds g : List Char}

/-! ### Single characters -/

lemma counterpart_cases (table : List (Nat × Nat)) (c : Char) :
    (counterpart table c = c ∧ table.lookup c.toNat = none) ∨
      ∃ e ∈ table, counterpart table c = Char.ofNat e.2 := by
  unfold counterpart
  cases hlook : table.lookup c.toNat with
  | none => exact .inl ⟨rfl, rfl⟩
  | some n =>
    obtain ⟨front, behind, rfl, -⟩ := List.lookup_eq_some_iff.1 hlook
    exact .inr ⟨(c.toNat, n), by simp, rfl⟩

/-- A small letter, and whatever has no case: it is put in small letters as it is. -/
def IsSmall (c : Char) : Prop := lowerChar c = [c]

instance (c : Char) : Decidable (IsSmall c) := by
  unfold IsSmall
  infer_instance

lemma lowerAscii_of_le (h : 128 ≤ c.toNat) : lowerAscii c = c := by
  have hcapital : ¬ ('A' ≤ c && c ≤ 'Z') = true := fun hletter => by
    have hhigh := (toNat_between hletter).2
    simp only [Char.reduceToNat] at hhigh
    omega
  rw [lowerAscii, if_neg hcapital]

lemma lowerAscii_of_isSmall (h : IsSmall c) : lowerAscii c = c := by
  by_cases hlow : c.toNat < 128
  · rw [IsSmall, lowerChar, if_pos hlow] at h
    exact List.singleton_inj.1 h
  · exact lowerAscii_of_le (by omega)

/-- The codes of letters that have small ones beyond ASCII. -/
def capitalCodes : List Nat := 0x130 :: smallLetters.map (·.1)

lemma isSmall_ofNat {n : Nat} (hvalid : n.isValidChar) (hlow : n < 128 → IsSmall (.ofNat n))
    (hcode : n ∉ capitalCodes) : IsSmall (.ofNat n) := by
  by_cases hn : n < 128
  · exact hlow hn
  · have htoNat := toNat_ofNat hvalid
    have hdotted : (Char.ofNat n == 'İ') = false := by
      rw [beq_eq_false_iff_ne]
      rintro heq
      rw [heq] at htoNat
      exact hcode (by rw [← htoNat]; exact List.mem_cons_self)
    have hnone : smallLetters.lookup n = none :=
      lookup_eq_none fun hmem => hcode (List.mem_cons_of_mem _ hmem)
    rw [IsSmall, lowerChar, if_neg (by omega), if_neg (by simp [hdotted]), counterpart, htoNat,
      hnone]
    rfl

/-- The code of a character that is put in small letters as it is. -/
def isSmallCode (n : Nat) : Bool :=
  decide n.isValidChar && (!decide (n < 128) || decide (IsSmall (.ofNat n))) &&
    !(bitsOf capitalCodes).testBit n

lemma isSmall_of_isSmallCode {n : Nat} (h : isSmallCode n) : IsSmall (.ofNat n) := by
  simp only [isSmallCode, Bool.and_eq_true, decide_eq_true_eq, Bool.or_eq_true, Bool.not_eq_true',
    decide_eq_false_iff_not] at h
  obtain ⟨⟨hvalid, hlow⟩, hbit⟩ := h
  refine isSmall_ofNat hvalid (fun hn => hlow.resolve_left (not_not.2 hn)) fun hmem => ?_
  rw [testBit_bitsOf.2 hmem] at hbit
  cases hbit

/-- Blanks are small and have no case, and they are not passed over in the search for a letter that
has one. -/
lemma caseless_blank (h : isBlank c) :
    IsSmall c ∧ isCaseIgnorable c = false ∧ isCased c = false := by
  have htable : ∀ n ∈ blankCodes, isSmallCode n ∧ isCaseIgnorable (.ofNat n) = false ∧
      isCased (.ofNat n) = false := by decide +kernel
  exact forall_blank (p := fun c => IsSmall c ∧ isCaseIgnorable c = false ∧ isCased c = false)
    (fun n hn => (htable n hn).imp_left isSmall_of_isSmallCode) h

lemma isSmall_of_blank (h : isBlank c) : IsSmall c := (caseless_blank h).1

/-- What the table puts for letters is small, and no blank. -/
lemma small_listed {e : Nat × Nat} (h : e ∈ smallLetters) :
    isSmallCode e.2 ∧ e.2 ∉ blankCodes := by
  have htable : smallLetters.all fun e =>
      isSmallCode e.2 && !(bitsOf blankCodes).testBit e.2 := by decide +kernel
  obtain ⟨hsmall, hbit⟩ := Bool.and_eq_true_iff.1 (List.all_eq_true.1 htable e h)
  refine ⟨hsmall, fun hmem => ?_⟩
  rw [testBit_bitsOf.2 hmem] at hbit
  cases hbit

lemma isSmall_of_listed {e : Nat × Nat} (h : e ∈ smallLetters) : IsSmall (.ofNat e.2) :=
  isSmall_of_isSmallCode (small_listed h).1

lemma isBlank_of_listed {e : Nat × Nat} (h : e ∈ smallLetters) : isBlank (.ofNat e.2) = false := by
  obtain ⟨hsmall, hother⟩ := small_listed h
  have hvalid : e.2.isValidChar := by
    simp only [isSmallCode, Bool.and_eq_true, decide_eq_true_eq] at hsmall
    exact hsmall.1.1
  refine Bool.eq_false_iff.2 fun hblank => hother ?_
  have hmem := mem_blankCodes hblank
  rwa [toNat_ofNat hvalid] at hmem

/-- Where a small letter comes from. -/
lemma mem_lowerChar (h : d ∈ lowerChar c) :
    (c.toNat < 128 ∧ d = lowerAscii c) ∨ (c = 'İ' ∧ d ∈ ['i', '\u0307']) ∨ (d = c ∧ IsSmall c) ∨
      ∃ e ∈ smallLetters, d = .ofNat e.2 := by
  unfold lowerChar at h
  split_ifs at h with hlow hdotted
  · exact .inl ⟨hlow, List.mem_singleton.1 h⟩
  · exact .inr (.inl ⟨beq_iff_eq.1 hdotted, h⟩)
  · rw [List.mem_singleton] at h
    rcases counterpart_cases smallLetters c with ⟨heq, -⟩ | ⟨e, he, heq⟩
    · refine .inr (.inr (.inl ⟨h.trans heq, ?_⟩))
      rw [IsSmall, lowerChar, if_neg hlow, if_neg hdotted, heq]
    · exact .inr (.inr (.inr ⟨e, he, h.trans heq⟩))

/-- The letters that are treated apart: what is put for them is small. -/
lemma isSmall_apart : ¬ IsSmall 'Σ' ∧ IsSmall 'ς' ∧ IsSmall 'i' ∧ IsSmall '\u0307' := by
  decide +kernel

lemma isSmall_of_mem_lowerChar (h : d ∈ lowerChar c) : IsSmall d := by
  have hascii : ∀ n < 128, IsSmall (lowerAscii (.ofNat n)) := by decide
  rcases mem_lowerChar h with ⟨hlow, rfl⟩ | ⟨-, hd⟩ | ⟨rfl, hsmall⟩ | ⟨e, he, rfl⟩
  · exact forall_below (p := fun c => IsSmall (lowerAscii c)) hascii hlow
  · simp only [List.mem_cons, List.not_mem_nil, or_false] at hd
    rcases hd with rfl | rfl
    · exact isSmall_apart.2.2.1
    · exact isSmall_apart.2.2.2
  · exact hsmall
  · exact isSmall_of_listed he

lemma isBlank_of_mem_lowerChar (hc : isBlank c = false) (h : d ∈ lowerChar c) :
    isBlank d = false := by
  have hascii : ∀ n < 128, isBlank (.ofNat n) = false →
      isBlank (lowerAscii (.ofNat n)) = false := by
    decide
  have hdotted : ∀ d ∈ ['i', '\u0307'], isBlank d = false :=
    List.all_iff_forall_prop.1 (by decide)
  rcases mem_lowerChar h with ⟨hlow, rfl⟩ | ⟨-, hd⟩ | ⟨rfl, -⟩ | ⟨e, he, rfl⟩
  · exact forall_below (p := fun c => isBlank c = false → isBlank (lowerAscii c) = false) hascii
      hlow hc
  · exact hdotted d hd
  · exact hc
  · exact isBlank_of_listed he

lemma lowerChar_ne_nil (c : Char) : lowerChar c ≠ [] := by
  unfold lowerChar
  split_ifs <;> simp

/-- What does not tell ASCII letters from their small ones tells no letters from them. -/
lemma apply_lowerAscii {α : Type} {f : Char → α}
    (h : ∀ n < 128, f (lowerAscii (.ofNat n)) = f (.ofNat n)) (c : Char) :
    f (lowerAscii c) = f c := by
  by_cases hlow : c.toNat < 128
  · exact forall_below (p := fun c => f (lowerAscii c) = f c) h hlow
  · rw [lowerAscii_of_le (by omega)]

/-- All that small letters depend on is the same of an ASCII letter and its small one. -/
lemma traits_lowerAscii (c : Char) :
    isCaseIgnorable (lowerAscii c) = isCaseIgnorable c ∧ isCased (lowerAscii c) = isCased c ∧
      lowerChar (lowerAscii c) = lowerChar c ∧ (lowerAscii c == 'Σ') = (c == 'Σ') := by
  have h := apply_lowerAscii
    (f := fun c => (isCaseIgnorable c, isCased c, lowerChar c, c == 'Σ')) (by decide +kernel) c
  simpa only [Prod.mk.injEq] using h

/-! ### Texts -/

/-- What is put for a character in a text in small letters. -/
structure SmallFor (c : Char) (image : List Char) : Prop where
  ne_nil : image ≠ []
  blank : isBlank c → image = [c]
  filled : isBlank c = false → ∀ d ∈ image, isBlank d = false
  small : ∀ d ∈ image, IsSmall d

lemma smallFor_lowerChar (c : Char) : SmallFor c (lowerChar c) where
  ne_nil := lowerChar_ne_nil c
  blank := isSmall_of_blank
  filled := fun hc _ => isBlank_of_mem_lowerChar hc
  small := fun _ => isSmall_of_mem_lowerChar

lemma smallFor_sigma : SmallFor 'Σ' ['ς'] where
  ne_nil := by simp
  blank := by decide
  filled := by
    rw [List.forall_mem_singleton]
    decide
  small := by
    rw [List.forall_mem_singleton]
    exact isSmall_apart.2.1

/-- Characters are put in small letters one by one. -/
lemma lowerFrom_cons (before : List Char) (c : Char) (rest : List Char) :
    ∃ image, SmallFor c image ∧
      lowerFrom before (c :: rest) = image ++ lowerFrom (c :: before) rest := by
  refine ⟨_, ?_, rfl⟩
  split
  · next h =>
    have hsigma : c = 'Σ' := by
      simp only [Bool.and_eq_true, beq_iff_eq] at h
      exact h.1.1
    rw [hsigma]
    exact smallFor_sigma
  · exact smallFor_lowerChar c

lemma lowerFrom_eq_nil : lowerFrom before cs = [] ↔ cs = [] := by
  cases cs with
  | nil => simp [lowerFrom]
  | cons c cs =>
    obtain ⟨image, himage, heq⟩ := lowerFrom_cons before c cs
    simp [heq, himage.ne_nil]

lemma isSmall_of_mem_lowerFrom (h : d ∈ lowerFrom before cs) : IsSmall d := by
  induction cs generalizing before with
  | nil => simp [lowerFrom] at h
  | cons c cs ih =>
    obtain ⟨image, himage, heq⟩ := lowerFrom_cons before c cs
    rw [heq, List.mem_append] at h
    exact h.elim (himage.small d) ih

lemma lowerFrom_cons_of_isSmall (h : IsSmall c) :
    lowerFrom before (c :: cs) = c :: lowerFrom (c :: before) cs := by
  have hne : (c == 'Σ') = false := by
    rw [beq_eq_false_iff_ne]
    rintro rfl
    exact isSmall_apart.1 h
  rw [lowerFrom, hne, Bool.false_and, Bool.false_and, if_neg (by simp), h]
  rfl

/-- Small letters stay as they are. -/
lemma lowerFrom_of_isSmall (h : ∀ c ∈ cs, IsSmall c) : lowerFrom before cs = cs := by
  induction cs generalizing before with
  | nil => rfl
  | cons c cs ih =>
    obtain ⟨hc, hcs⟩ := List.forall_mem_cons.1 h
    rw [lowerFrom_cons_of_isSmall hc, ih hcs]

lemma lower_lower (s : String) : lower (lower s) = lower s := by
  have hsmall : ∀ c ∈ (lower s).toList, IsSmall c := fun c hc => by
    rw [lower, String.toList_ofList] at hc
    exact isSmall_of_mem_lowerFrom hc
  rw [lower, lowerFrom_of_isSmall hsmall, String.ofList_toList]

/-! ### Blanks -/

lemma blank_mem_of_lowerFrom (hd : isBlank d) (h : d ∈ lowerFrom before cs) : d ∈ cs := by
  induction cs generalizing before with
  | nil => simp [lowerFrom] at h
  | cons c cs ih =>
    obtain ⟨image, himage, heq⟩ := lowerFrom_cons before c cs
    rw [heq, List.mem_append] at h
    rcases h with h | h
    · cases hc : isBlank c with
      | true => simpa [himage.blank hc] using Or.inl h
      | false => simp [himage.filled hc d h] at hd
    · exact List.mem_cons_of_mem c (ih h)

lemma head?_lowerFrom (h : ∀ c ∈ cs.head?, isBlank c = false) :
    ∀ d ∈ (lowerFrom before cs).head?, isBlank d = false := by
  cases cs with
  | nil => simp [lowerFrom]
  | cons c cs =>
    obtain ⟨image, himage, heq⟩ := lowerFrom_cons before c cs
    rw [heq, List.head?_append_of_ne_nil _ himage.ne_nil]
    exact fun d hd => himage.filled (h c rfl) d (List.mem_of_mem_head? hd)

lemma getLast?_lowerFrom (h : ∀ c ∈ cs.getLast?, isBlank c = false) :
    ∀ d ∈ (lowerFrom before cs).getLast?, isBlank d = false := by
  induction cs generalizing before with
  | nil => simp [lowerFrom]
  | cons c cs ih =>
    obtain ⟨image, himage, heq⟩ := lowerFrom_cons before c cs
    rw [heq]
    cases cs with
    | nil =>
      rw [lowerFrom, List.append_nil]
      exact fun d hd => himage.filled (h c rfl) d (List.mem_of_getLast? hd)
    | cons e cs =>
      rw [List.getLast?_append_of_ne_nil _ (mt lowerFrom_eq_nil.1 (by simp))]
      exact ih (by simpa using h)

lemma Tight.lowerFrom (h : Tight cs) (before : List Char) : Tight (lowerFrom before cs) :=
  ⟨head?_lowerFrom h.head, getLast?_lowerFrom h.last⟩

section

variable {b : Char} (hb : isBlank b)

include hb

lemma nearestIsCased_blank (cs ds : List Char) :
    nearestIsCased (cs ++ b :: ds) = nearestIsCased cs := by
  have hblank := (caseless_blank hb).2
  unfold nearestIsCased
  induction cs with
  | nil => simp [hblank]
  | cons c cs ih =>
    cases hc : isCaseIgnorable c with
    | false => simp [hc]
    | true => simpa [hc] using ih

/-- What stands before a blank does not matter behind it. -/
lemma lowerFrom_behind_blank (cs ds before : List Char) :
    lowerFrom (cs ++ b :: before) ds = lowerFrom cs ds := by
  induction ds generalizing cs with
  | nil => rfl
  | cons d ds ih =>
    have h := ih (d :: cs)
    rw [List.cons_append] at h
    rw [lowerFrom, lowerFrom, nearestIsCased_blank hb, h]

/-- Texts with a blank between them are put in small letters each by itself. -/
lemma lowerFrom_append_blank (before cs ds : List Char) :
    lowerFrom before (cs ++ b :: ds) = lowerFrom before cs ++ b :: lowerFrom [] ds := by
  induction cs generalizing before with
  | nil =>
    obtain ⟨image, himage, heq⟩ := lowerFrom_cons before b ds
    rw [List.nil_append, heq, himage.blank hb, ← List.nil_append (b :: before),
      lowerFrom_behind_blank hb]
    rfl
  | cons c cs ih =>
    rw [List.cons_append, lowerFrom, lowerFrom, nearestIsCased_blank hb, ih, List.append_assoc]

end

lemma lowerFrom_blanks_append (hg : ∀ c ∈ g, isBlank c) :
    lowerFrom [] (g ++ cs) = g ++ lowerFrom [] cs := by
  induction g with
  | nil => rfl
  | cons b g ih =>
    obtain ⟨hb, hg⟩ := List.forall_mem_cons.1 hg
    have h := lowerFrom_append_blank hb [] [] (g ++ cs)
    rw [List.nil_append] at h
    rw [List.cons_append, h, ih hg]
    rfl

lemma lowerFrom_append_blanks (hg : ∀ c ∈ g, isBlank c) :
    lowerFrom before (cs ++ g) = lowerFrom before cs ++ g := by
  cases g with
  | nil => simp
  | cons b g =>
    obtain ⟨hb, hg⟩ := List.forall_mem_cons.1 hg
    rw [lowerFrom_append_blank hb, lowerFrom_of_isSmall fun c hc => isSmall_of_blank (hg c hc)]

/-- The blanks around a text do not matter. -/
lemma lower_trimmed (s : String) : lower (trimmed s) = trimmed (lower s) := by
  obtain ⟨g₁, g₂, hg₁, hg₂, hsplit⟩ := exists_trim s.toList
  have hlower : lowerFrom [] s.toList = g₁ ++ (lowerFrom [] (trim s.toList) ++ g₂) := by
    calc lowerFrom [] s.toList
        = lowerFrom [] (g₁ ++ (trim s.toList ++ g₂)) := congrArg _ hsplit
      _ = g₁ ++ lowerFrom [] (trim s.toList ++ g₂) := lowerFrom_blanks_append hg₁
      _ = _ := by rw [lowerFrom_append_blanks hg₂]
  rw [lower, lower, trimmed, trimmed, String.toList_ofList, String.toList_ofList, hlower,
    trim_blanks_append hg₁, trim_append_blanks hg₂, ((tight_trim s.toList).lowerFrom []).trim]

/-! ### ASCII letters -/

lemma nearestIsCased_map_lowerAscii (cs : List Char) :
    nearestIsCased (cs.map lowerAscii) = nearestIsCased cs := by
  have hignored : isCaseIgnorable ∘ lowerAscii = isCaseIgnorable :=
    funext fun c => (traits_lowerAscii c).1
  unfold nearestIsCased
  rw [List.dropWhile_map, hignored, List.head?_map, Option.any_map]
  simp only [(traits_lowerAscii _).2.1]

lemma lowerFrom_map_lowerAscii (before cs : List Char) :
    lowerFrom (before.map lowerAscii) (cs.map lowerAscii) = lowerFrom before cs := by
  induction cs generalizing before with
  | nil => rfl
  | cons c cs ih =>
    have h := ih (c :: before)
    obtain ⟨-, -, hletter, hsigma⟩ := traits_lowerAscii c
    rw [List.map_cons] at h
    rw [List.map_cons, lowerFrom, lowerFrom, h, hsigma, hletter, nearestIsCased_map_lowerAscii,
      nearestIsCased_map_lowerAscii]

lemma lower_asciiLower (s : String) : lower (asciiLower s) = lower s := by
  rw [lower, lower, asciiLower, String.toList_ofList]
  exact congrArg String.ofList (lowerFrom_map_lowerAscii [] s.toList)

lemma asciiLower_lower (s : String) : asciiLower (lower s) = lower s := by
  have hsmall : ∀ c ∈ lowerFrom [] s.toList, lowerAscii c = c := fun c hc =>
    lowerAscii_of_isSmall (isSmall_of_mem_lowerFrom hc)
  rw [asciiLower, lower, String.toList_ofList, List.map_congr_left hsmall, List.map_id']

/-- Nothing but ASCII letters changes exactly if no letter beyond ASCII is a capital one. -/
lemma lowerFrom_eq_map_iff (before cs : List Char) :
    lowerFrom before cs = cs.map lowerAscii ↔ ∀ c ∈ cs, 128 ≤ c.toNat → IsSmall c := by
  induction cs generalizing before with
  | nil => simp [lowerFrom]
  | cons c cs ih =>
    rw [List.forall_mem_cons, List.map_cons, ← ih (c :: before)]
    by_cases hlow : c.toNat < 128
    · have hsigma : ∀ n < 128, (Char.ofNat n == 'Σ') = false := by decide
      have hne := forall_below (p := fun c => (c == 'Σ') = false) hsigma hlow
      rw [lowerFrom, hne, Bool.false_and, Bool.false_and, if_neg (by simp), lowerChar, if_pos hlow]
      simp
      omega
    · have hself := lowerAscii_of_le (show 128 ≤ c.toNat by omega)
      constructor
      · intro heq
        -- What is put for the letter starts with the letter, and is small.
        obtain ⟨image, himage, himage_eq⟩ := lowerFrom_cons before c cs
        obtain ⟨d, rest, rfl⟩ := List.exists_cons_of_ne_nil himage.ne_nil
        have hsmall : IsSmall c := by
          rw [himage_eq, hself] at heq
          rw [← (List.cons.inj heq).1]
          exact himage.small d (by simp)
        rw [lowerFrom_cons_of_isSmall hsmall] at heq
        exact ⟨fun _ => hsmall, (List.cons.inj heq).2⟩
      · rintro ⟨hsmall, heq⟩
        rw [lowerFrom_cons_of_isSmall (hsmall (by omega)), hself, heq]

end Estate.Text
