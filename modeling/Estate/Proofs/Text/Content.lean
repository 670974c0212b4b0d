import Mathlib.Data.List.TakeWhile
import Mathlib.Tactic.Lemma
import Estate.Json.Value
import Estate.Proofs.Text.Cutting
import Estate.Text.Case

/-!
Texts that are not blank, and what leaves them so.
-/

namespace Estate

namespace Text

/-- Some character is no blank. -/
def Filled (cs : List Char) : Prop := ∃ c ∈ cs, isBlank c = false

instance (cs : List Char) : Decidable (Filled cs) :=
  decidable_of_iff (cs.any fun c => !isBlank c) (by simp [Filled])

section

variable {cs ds : List Char}

lemma Filled.mono (h : Filled cs) (hsub : cs ⊆ ds) : Filled ds := by
  obtain ⟨c, hc, hblank⟩ := h
  exact ⟨c, hsub hc, hblank⟩

lemma trim_subset (cs : List Char) : trim cs ⊆ cs := by
  intro c hc
  rw [trim, trimEnd, List.mem_reverse] at hc
  have hstart := List.mem_reverse.1 ((List.dropWhile_sublist _).subset hc)
  exact (List.dropWhile_sublist _).subset hstart

/-- What is left of a text without the blanks around it is filled, if anything is left. -/
lemma filled_trim (h : trim cs ≠ []) : Filled (trim cs) := by
  rw [trim, trimEnd, Ne, List.reverse_eq_nil_iff] at h
  obtain ⟨c, hc⟩ := Option.isSome_iff_exists.1 (List.isSome_head?.2 h)
  refine ⟨c, ?_, head?_dropWhile isBlank _ c hc⟩
  rw [trim, trimEnd, List.mem_reverse]
  exact List.mem_of_mem_head? hc

lemma trim_eq_nil (h : ¬ Filled cs) : trim cs = [] :=
  Decidable.byContradiction fun hne => h ((filled_trim hne).mono (trim_subset cs))

lemma filled_of_nonBlank? {s t : String} (h : nonBlank? s = some t) :
    Filled t.toList ∧ Filled s.toList := by
  simp only [nonBlank?] at h
  split at h
  · cases h
  · next hempty =>
    cases h
    have hne : trim s.toList ≠ [] := fun hnil => hempty (by rw [trimmed, hnil]; rfl)
    rw [trimmed, String.toList_ofList]
    exact ⟨filled_trim hne, (filled_trim hne).mono (trim_subset _)⟩

lemma isBlank_of_isAsciiDigit {c : Char} (h : isAsciiDigit c) : isBlank c = false := by
  have hall : ∀ n < 58, 48 ≤ n → isBlank (.ofNat n) = false := by decide
  obtain ⟨hlow, hhigh⟩ := toNat_between h
  simp only [Char.reduceToNat] at hlow hhigh
  have hdigit := hall c.toNat (by omega) hlow
  rwa [Char.ofNat_toNat] at hdigit

lemma isBlank_upperAscii {c : Char} (h : isBlank c = false) : isBlank (upperAscii c) = false := by
  by_cases hsmall : ('a' ≤ c && c ≤ 'z') = true
  · have hall : ∀ n < 123, 97 ≤ n → isBlank (upperAscii (.ofNat n)) = false := by decide
    obtain ⟨hlow, hhigh⟩ := toNat_between hsmall
    simp only [Char.reduceToNat] at hlow hhigh
    have hupper := hall c.toNat (by omega) hlow
    rwa [Char.ofNat_toNat] at hupper
  · rwa [upperAscii, if_neg hsmall]

lemma filled_asciiUpper {s : String} (h : Filled s.toList) : Filled (asciiUpper s).toList := by
  obtain ⟨c, hc, hblank⟩ := h
  rw [asciiUpper, String.toList_ofList]
  exact ⟨upperAscii c, List.mem_map_of_mem hc, isBlank_upperAscii hblank⟩

end

end Text

lemma Json.Value.isPopulated_string {s : String} :
    (Value.string s).isPopulated ↔ Text.Filled s.toList := by
  simp [isPopulated, Text.Filled]

end Estate
