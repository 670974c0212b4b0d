import Mathlib.Data.List.Basic
import Mathlib.Tactic.Lemma
import Estate.Proofs.Text.Codes
import Estate.Proofs.Text.Composition

/-!
Texts without their marks.

Marks change places with nothing but marks, so what is left when they are taken off is left of each
character by itself, and is left as it is when marks are taken off again.
-/

namespace Estate.Text

variable {c d : Char}

/-! ### Order -/

/-- What is no mark has no combining class. -/
lemma combiningClass_of_not_isMark (h : isMark c = false) : combiningClass c = 0 := by
  have htable : Runs.together (fun k g => k == 0 || g.isMark) 5000 0 .cn combiningRuns
      categoryRuns := by decide +kernel
  have hfits := Runs.fits_of_together htable c.toNat
  rw [combiningClass]
  split_ifs
  · rfl
  · simpa [show (Runs.at .cn categoryRuns c.toNat).isMark = false from h] using hfits

/-- Wherever a mark is put, the rest stays in order. -/
lemma filter_insertMark (c : Char) (cs : List Char) :
    (insertMark c (combiningClass c) cs).filter (!isMark ·) = (c :: cs).filter (!isMark ·) := by
  cases hc : isMark c with
  | false => rw [combiningClass_of_not_isMark hc, insertMark_zero]
  | true =>
    induction cs with
    | nil => simp [insertMark]
    | cons d cs ih =>
      rw [insertMark]
      split_ifs
      · rw [List.filter_cons, ih]
        simp [List.filter_cons, hc]
      · rfl

lemma filter_orderMarks (cs : List Char) :
    (orderMarks cs).filter (!isMark ·) = cs.filter (!isMark ·) := by
  have hfold : ∀ (cs acc : List Char),
      (cs.foldl (fun acc c => insertMark c (combiningClass c) acc) acc).filter (!isMark ·) =
        (cs.reverse ++ acc).filter (!isMark ·) := by
    intro cs
    induction cs with
    | nil => simp
    | cons c cs ih =>
      intro acc
      rw [List.foldl_cons, ih, List.filter_append, filter_insertMark, ← List.filter_append]
      simp
  rw [orderMarks, List.filter_reverse, hfold]
  simp

/-! ### Parts of characters -/

/-- The codes that are listed with their parts. -/
def listedWholes : List Nat := decompositions.map (·.1)

lemma decomposeChar_of_not_listed (hsyllable : isHangulSyllable c.toNat = false)
    (hlisted : c.toNat ∉ listedWholes) : decomposeChar c = [c] := by
  simp [decomposeChar, hsyllable, lookup_eq_none hlisted]

/-- A code that stands for one character and has no parts itself. -/
def isWhole (n : Nat) : Bool :=
  decide n.isValidChar && !isHangulSyllable n && !(bitsOf listedWholes).testBit n

lemma decomposeChar_of_isWhole {n : Nat} (h : isWhole n) :
    decomposeChar (.ofNat n) = [.ofNat n] := by
  simp only [isWhole, Bool.and_eq_true, Bool.not_eq_true', decide_eq_true_eq] at h
  obtain ⟨⟨hvalid, hsyllable⟩, hbit⟩ := h
  apply decomposeChar_of_not_listed <;> rw [toNat_ofNat hvalid]
  · exact hsyllable
  · exact fun hmem => by simp [testBit_bitsOf.2 hmem] at hbit

/-- Parts are whole: the jamo of syllables, and what is listed. -/
lemma isWhole_parts : (List.range' 0x1100 0xC3).all isWhole ∧
    decompositions.all fun e => e.2.all isWhole := by
  decide +kernel

/-- Parts of characters have no parts. -/
lemma decomposeChar_part (h : d ∈ decomposeChar c) : decomposeChar d = [d] := by
  rcases decomposeChar_cases c with hc | ⟨codes, -, hc, hcodes⟩
  · rw [hc, List.mem_singleton] at h
    rw [h, hc]
  · rw [hc] at h
    obtain ⟨n, hn, rfl⟩ := List.mem_map.1 h
    refine decomposeChar_of_isWhole ?_
    rcases hcodes with hjamo | hlisted
    · exact List.all_eq_true.1 isWhole_parts.1 n (List.mem_range'_1.2 (hjamo n hn))
    · exact List.all_eq_true.1 (List.all_eq_true.1 isWhole_parts.2 _ hlisted) n hn

/-! ### Texts -/

/-- What is left of a character. -/
def plainParts (c : Char) : List Char := (decomposeChar c).filter (!isMark ·)

lemma toList_withoutMarks (s : String) : (withoutMarks s).toList = s.toList.flatMap plainParts := by
  rw [withoutMarks, String.toList_ofList, decompose, filter_orderMarks, List.filter_flatMap]
  rfl

/-- **Marks are taken off each part of a text by itself.** -/
lemma withoutMarks_append (a b : String) :
    withoutMarks (a ++ b) = withoutMarks a ++ withoutMarks b := by
  apply String.toList_inj.1
  simp [toList_withoutMarks]

lemma plainParts_part (h : d ∈ plainParts c) : plainParts d = [d] := by
  obtain ⟨hpart, hmark⟩ := List.mem_filter.1 h
  rw [plainParts, decomposeChar_part hpart]
  simpa using hmark

/-- **No marks are left when they have been taken off.** -/
lemma withoutMarks_withoutMarks (s : String) : withoutMarks (withoutMarks s) = withoutMarks s := by
  apply String.toList_inj.1
  rw [toList_withoutMarks, toList_withoutMarks, List.flatMap_assoc]
  refine List.flatMap_congr fun c _ => ?_
  rw [List.flatMap_congr fun d hd => plainParts_part hd, List.flatMap_singleton']

end Estate.Text
