import Mathlib.Data.List.Basic
import Mathlib.Tactic.Lemma
import Estate.Proofs.Text.Content
import Estate.Proofs.Text.Cutting

/-!
The words of a text, which stand between blanks. A text whose blanks are collapsed is its words with
single spaces between.
-/

namespace Estate.Text

/-- The words of a text, which stand between blanks. -/
def wordsIn (cs : List Char) : List (List Char) := (cs.splitOnP isBlank).filter (!·.isEmpty)

section

variable {c d : Char} {cs ds es g w : List Char}

lemma wordsIn_nil : wordsIn [] = [] := by simp [wordsIn]

/-- At a blank words are parted; the rest follows from this. -/
lemma wordsIn_append_blank (hc : isBlank c) (cs ds : List Char) :
    wordsIn (cs ++ c :: ds) = wordsIn cs ++ wordsIn ds := by
  rw [wordsIn, List.splitOnP_append_cons cs ds hc, List.filter_append, ← wordsIn, ← wordsIn]

lemma wordsIn_cons_blank (hc : isBlank c) (cs : List Char) : wordsIn (c :: cs) = wordsIn cs := by
  have h := wordsIn_append_blank hc [] cs
  rwa [List.nil_append, wordsIn_nil, List.nil_append] at h

lemma wordsIn_blanks_append (hg : ∀ c ∈ g, isBlank c) (cs : List Char) :
    wordsIn (g ++ cs) = wordsIn cs := by
  induction g with
  | nil => rfl
  | cons b g ih =>
    obtain ⟨hb, hrest⟩ := List.forall_mem_cons.1 hg
    rw [List.cons_append, wordsIn_cons_blank hb, ih hrest]

lemma wordsIn_append_blanks (hg : ∀ c ∈ g, isBlank c) (cs : List Char) :
    wordsIn (cs ++ g) = wordsIn cs := by
  cases g with
  | nil => rw [List.append_nil]
  | cons b g =>
    obtain ⟨hb, hrest⟩ := List.forall_mem_cons.1 hg
    have hnone : wordsIn g = [] := by
      have h := wordsIn_blanks_append hrest []
      rwa [List.append_nil, wordsIn_nil] at h
    rw [wordsIn_append_blank hb, hnone, List.append_nil]

lemma wordsIn_trim (cs : List Char) : wordsIn (trim cs) = wordsIn cs := by
  obtain ⟨g₁, g₂, hg₁, hg₂, hsplit⟩ := exists_trim cs
  calc wordsIn (trim cs)
      = wordsIn (trim cs ++ g₂) := (wordsIn_append_blanks hg₂ _).symm
    _ = wordsIn (g₁ ++ (trim cs ++ g₂)) := (wordsIn_blanks_append hg₁ _).symm
    _ = wordsIn cs := by rw [← hsplit]

lemma wordsIn_word (hne : w ≠ []) (hw : ∀ c ∈ w, isBlank c = false) : wordsIn w = [w] := by
  rw [wordsIn, List.splitOnP_eq_singleton hw]
  simp [hne]

/-- A text that starts with no blank starts with a word. -/
lemma wordsIn_cons (hc : isBlank c = false) (cs : List Char) :
    wordsIn (c :: cs) =
      (c :: cs.takeWhile (!isBlank ·)) :: wordsIn (cs.dropWhile (!isBlank ·)) := by
  have hword : ∀ x ∈ c :: cs.takeWhile (!isBlank ·), isBlank x = false := by
    refine List.forall_mem_cons.2 ⟨hc, fun x hx => ?_⟩
    simpa using List.mem_takeWhile_imp hx
  have hsplit : c :: cs =
      (c :: cs.takeWhile (!isBlank ·)) ++ cs.dropWhile (!isBlank ·) := by
    rw [List.cons_append, List.takeWhile_append_dropWhile]
  have hone := wordsIn_word (List.cons_ne_nil _ _) hword
  have hhead := head?_dropWhile (!isBlank ·) cs
  rw [hsplit]
  cases hrest : cs.dropWhile (!isBlank ·) with
  | nil => rw [List.append_nil, hone, wordsIn_nil]
  | cons b rest =>
    have hb : isBlank b := by simpa using hhead b (by rw [hrest]; rfl)
    rw [wordsIn_append_blank hb, hone, wordsIn_cons_blank hb, List.singleton_append]

lemma wordsIn_ne_nil (h : Filled cs) : wordsIn cs ≠ [] := by
  induction cs with
  | nil =>
    obtain ⟨c, hc, -⟩ := h
    cases hc
  | cons x cs ih =>
    cases hx : isBlank x with
    | false =>
      rw [wordsIn_cons hx]
      exact List.cons_ne_nil _ _
    | true =>
      rw [wordsIn_cons_blank hx]
      obtain ⟨c, hc, hfilled⟩ := h
      rcases List.mem_cons.1 hc with rfl | hc
      · rw [hx] at hfilled
        cases hfilled
      · exact ih ⟨c, hc, hfilled⟩

/-! ### Texts with the same words -/

/-- Behind any part of a word the texts go on with the same words. -/
def SameWords (cs ds : List Char) : Prop :=
  ∀ w, (∀ c ∈ w, isBlank c = false) → wordsIn (w ++ cs) = wordsIn (w ++ ds)

namespace SameWords

lemma refl (cs : List Char) : SameWords cs cs := fun _ _ => rfl

lemma trans (h : SameWords cs ds) (h' : SameWords ds es) : SameWords cs es :=
  fun w hw => (h w hw).trans (h' w hw)

lemma words (h : SameWords cs ds) : wordsIn cs = wordsIn ds := h [] (by simp)

/-- A blank ends the word, be it this or that one. -/
lemma blank (hc : isBlank c) (hd : isBlank d) (h : wordsIn cs = wordsIn ds) :
    SameWords (c :: cs) (d :: ds) := by
  intro w _
  rw [wordsIn_append_blank hc, wordsIn_append_blank hd, h]

lemma cons (c : Char) (h : SameWords cs ds) : SameWords (c :: cs) (c :: ds) := by
  cases hc : isBlank c with
  | true => exact blank hc hc h.words
  | false =>
    intro w hw
    have hlonger : ∀ x ∈ w ++ [c], isBlank x = false := by
      simpa [or_imp, forall_and, hc] using hw
    have hnext := h (w ++ [c]) hlonger
    rwa [List.append_assoc, List.append_assoc, List.singleton_append] at hnext

end SameWords

/-- Blanks that are collapsed part the same words. -/
lemma sameWords_squeezeBlanks (cs : List Char) : SameWords (squeezeBlanks cs) cs := by
  have hspace : isBlank ' ' := by decide
  fun_induction squeezeBlanks cs with
  | case1 => exact .refl []
  | case2 c hc => exact .blank hspace hc rfl
  | case3 c _ => exact .refl [c]
  | case4 c d rest hc hd ih =>
    exact ih.trans (.blank hd hc (wordsIn_cons_blank hd rest).symm)
  | case5 c d rest hc _ ih => exact .blank hspace hc ih.words
  | case6 c d rest _ ih => exact ih.cons c

/-! ### Words with single spaces between -/

/-- A text that ends in no blank, with its blanks collapsed: its words with single spaces between,
and a space in front if it starts with a blank. -/
lemma squeezeBlanks_eq (hlast : ∀ c ∈ cs.getLast?, isBlank c = false) :
    squeezeBlanks cs =
      (if cs.head?.any isBlank then [' '] else []) ++ [' '].intercalate (wordsIn cs) := by
  fun_induction squeezeBlanks cs with
  | case1 => simp [wordsIn_nil]
  | case2 c hc =>
    rw [hlast c rfl] at hc
    cases hc
  | case3 c hc =>
    have hword : wordsIn [c] = [[c]] := wordsIn_word (by simp) (by simpa using hc)
    simp [hword, hc]
  | case4 c d rest hc hd ih =>
    rw [ih (by simpa using hlast), wordsIn_cons_blank hc]
    simp [hc, hd]
  | case5 c d rest hc hd ih =>
    rw [ih (by simpa using hlast), wordsIn_cons_blank hc]
    simp [hc, hd]
  | case6 c d rest hc ih =>
    have hc' : isBlank c = false := by simpa using hc
    rw [ih (by simpa using hlast), wordsIn_cons hc']
    cases hd : isBlank d with
    | false =>
      rw [wordsIn_cons hd, List.takeWhile_cons_of_pos (by simpa using hd),
        List.dropWhile_cons_of_pos (by simpa using hd)]
      cases wordsIn (rest.dropWhile (!isBlank ·)) <;> simp [hc', hd]
    | true =>
      have hfilled : Filled (d :: rest) := by
        have hne : d :: rest ≠ [] := List.cons_ne_nil d rest
        exact ⟨(d :: rest).getLast hne, List.getLast_mem hne,
          hlast _ (by rw [List.getLast?_cons_cons, List.getLast?_eq_some_getLast hne]; rfl)⟩
      rw [List.takeWhile_cons_of_neg (by simpa using hd),
        List.dropWhile_cons_of_neg (by simpa using hd)]
      obtain ⟨next, more, hwords⟩ := List.exists_cons_of_ne_nil (wordsIn_ne_nil hfilled)
      rw [hwords]
      simp [hc', hd]

/-- Trimmed and collapsed, a text is its words with single spaces between. -/
lemma squeezeBlanks_trim (cs : List Char) :
    squeezeBlanks (trim cs) = [' '].intercalate (wordsIn cs) := by
  have htight := tight_trim cs
  have hhead : (trim cs).head?.any isBlank = false := by
    cases hfirst : (trim cs).head? with
    | none => rfl
    | some c => exact htight.head c hfirst
  rw [squeezeBlanks_eq htight.last, hhead, wordsIn_trim]
  rfl

end

end Estate.Text
