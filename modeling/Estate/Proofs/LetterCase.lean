import Estate.FieldValue
import Estate.Proofs.Text.Lowering

/-!
Letter case in what a text says.

Whether a text has a part, is there at all, or says yes does not depend on the case of its letters.
Whether it is an expected text depends on the case of letters beyond ASCII, and on no other.
-/

namespace Estate

namespace Text

/-- Any capital letters are ASCII letters. -/
def OnlyAsciiCapitals (s : String) : Prop := ∀ c ∈ s.toList, 128 ≤ c.toNat → IsSmall c

instance (s : String) : Decidable (OnlyAsciiCapitals s) := List.decidableBAll _ _

lemma asciiLower_eq_lower_iff {s : String} : asciiLower s = lower s ↔ OnlyAsciiCapitals s := by
  rw [OnlyAsciiCapitals, ← lowerFrom_eq_map_iff [], asciiLower, lower,
    String.ofList_inj, eq_comm]

lemma onlyAsciiCapitals_trimmed {s : String} :
    OnlyAsciiCapitals (trimmed s) ↔ OnlyAsciiCapitals s := by
  obtain ⟨g₁, g₂, hg₁, hg₂, hsplit⟩ := exists_trim s.toList
  have hblank : ∀ c, isBlank c → 128 ≤ c.toNat → IsSmall c := fun c hc _ => isSmall_of_blank hc
  unfold OnlyAsciiCapitals
  rw [trimmed, String.toList_ofList]
  constructor
  · intro h c hc
    rw [hsplit, List.mem_append, List.mem_append] at hc
    rcases hc with hc | hc | hc
    · exact hblank c (hg₁ c hc)
    · exact h c hc
    · exact hblank c (hg₂ c hc)
  · intro h c hc
    refine h c ?_
    rw [hsplit]
    simp [hc]

/-- Two texts are the same in all four mixtures of small letters and small ASCII letters or in none,
exactly if they differ in small letters or have no other letters to make small than ASCII ones. -/
lemma same_iff {s t : String} :
    ((lower s = asciiLower t ↔ asciiLower s = asciiLower t) ∧
      (asciiLower s = lower t ↔ asciiLower s = asciiLower t) ∧
      (lower s = lower t ↔ asciiLower s = asciiLower t)) ↔
    (lower s = lower t → asciiLower s = lower s ∧ asciiLower t = lower t) := by
  constructor
  · rintro ⟨htext, hparameter, hboth⟩ hsame
    have heq := hboth.1 hsame
    exact ⟨heq.trans (htext.2 heq).symm, heq.symm.trans (hparameter.2 heq)⟩
  · intro h
    by_cases hsame : lower s = lower t
    · obtain ⟨hs, ht⟩ := h hsame
      simp [hs, ht, hsame]
    · have hascii : asciiLower s ≠ asciiLower t := fun heq => hsame <| by
        rw [← lower_asciiLower s, heq, lower_asciiLower]
      have hleft : lower s ≠ asciiLower t := fun heq => hsame <| by
        rw [← lower_lower s, heq, lower_asciiLower]
      have hright : asciiLower s ≠ lower t := fun heq => hsame <| by
        rw [← lower_asciiLower s, heq, lower_lower]
      simp [hsame, hascii, hleft, hright]

lemma isEmpty_lower (s : String) : (lower s).isEmpty = s.isEmpty := by
  rw [Bool.eq_iff_iff, String.isEmpty_iff, String.isEmpty_iff, ← String.toList_eq_nil_iff,
    ← String.toList_eq_nil_iff, lower, String.toList_ofList, lowerFrom_eq_nil]

end Text

namespace Evaluator

open Text

/-- The evaluator with its parameter in small letters. -/
def lowered : Evaluator → Evaluator
  | .contains part => .contains (lower part)
  | .equals expected => .equals (lower expected)
  | .present => .present

/-- Small letters in the text, in the parameter or in both change nothing. -/
structure IgnoresCase (e : Option Evaluator) (text : String) : Prop where
  ofText : holds e (lower text) = holds e text
  ofParameter : holds (e.map lowered) text = holds e text
  ofBoth : holds (e.map lowered) (lower text) = holds e text

lemma ignoresCase_iff_and {e : Option Evaluator} {text : String} : IgnoresCase e text ↔
    (holds e (lower text) ↔ holds e text) ∧ (holds (e.map lowered) text ↔ holds e text) ∧
      (holds (e.map lowered) (lower text) ↔ holds e text) := by
  simp only [← Bool.eq_iff_iff]
  exact ⟨fun h => ⟨h.ofText, h.ofParameter, h.ofBoth⟩, fun ⟨h₁, h₂, h₃⟩ => ⟨h₁, h₂, h₃⟩⟩

lemma ignoresCase_contains (part text : String) : IgnoresCase (some (.contains part)) text := by
  constructor <;> simp [holds, lowered, ← lower_trimmed, lower_lower]

lemma ignoresCase_present (text : String) : IgnoresCase (some .present) text := by
  constructor <;> simp [holds, lowered, ← lower_trimmed, isEmpty_lower]

lemma ignoresCase_none (text : String) : IgnoresCase none text := by
  constructor <;> simp [holds, ← lower_trimmed, lower_lower]

lemma holds_equals_iff {expected text : String} : holds (some (.equals expected)) text ↔
    asciiLower (trimmed text) = asciiLower (trimmed expected) := by
  simp [holds, sameIgnoringAsciiCase]

/-- Case is ignored but where two texts are the same in small letters and one of them has a capital
letter beyond ASCII. -/
lemma ignoresCase_equals_iff {expected text : String} :
    IgnoresCase (some (.equals expected)) text ↔
      (lower (trimmed text) = lower (trimmed expected) →
        OnlyAsciiCapitals text ∧ OnlyAsciiCapitals expected) := by
  have htext : holds (some (.equals expected)) (lower text) ↔
      lower (trimmed text) = asciiLower (trimmed expected) := by
    rw [holds_equals_iff, ← lower_trimmed, asciiLower_lower]
  have hparameter : holds (some (.equals (lower expected))) text ↔
      asciiLower (trimmed text) = lower (trimmed expected) := by
    rw [holds_equals_iff, ← lower_trimmed, asciiLower_lower]
  have hboth : holds (some (.equals (lower expected))) (lower text) ↔
      lower (trimmed text) = lower (trimmed expected) := by
    rw [holds_equals_iff, ← lower_trimmed, ← lower_trimmed, asciiLower_lower, asciiLower_lower]
  rw [← onlyAsciiCapitals_trimmed (s := text), ← onlyAsciiCapitals_trimmed (s := expected),
    ← asciiLower_eq_lower_iff, ← asciiLower_eq_lower_iff, ← same_iff, ignoresCase_iff_and]
  simp only [Option.map_some, lowered, htext, hparameter, hboth, holds_equals_iff]

/-- **Where letter case does not matter**: it matters to no evaluator but one that expects a text,
and to this one only where the text is the expected one in small letters and there are capital
letters beyond ASCII. -/
theorem ignoresCase_iff (e : Option Evaluator) (text : String) :
    IgnoresCase e text ↔ ∀ expected, e = some (.equals expected) →
      lower (trimmed text) = lower (trimmed expected) →
        OnlyAsciiCapitals text ∧ OnlyAsciiCapitals expected := by
  cases e with
  | none => simpa using ignoresCase_none text
  | some e =>
    cases e with
    | contains part => simpa using ignoresCase_contains part text
    | equals expected => simpa using ignoresCase_equals_iff
    | present => simpa using ignoresCase_present text

/-- The word for yes is not found where it is written in small letters. -/
theorem small_yes_missed :
    holds (some (.equals "SÍ")) "SÍ" = true ∧ holds (some (.equals "SÍ")) (lower "SÍ") = false := by
  decide +kernel

end Evaluator

end Estate
