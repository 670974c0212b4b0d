import Mathlib.Tactic.Lemma

/-!
Rows of changes: the last item that decides counts, if those behind it keep what it has decided.
-/

namespace Estate

variable {α : Type}

/-- An item of the row decides, and all behind it keep that. -/
def LastWord (decides keeps : α → Prop) (items : List α) : Prop :=
  ∃ before item after, items = before ++ item :: after ∧ decides item ∧ ∀ i ∈ after, keeps i

section

variable {decides keeps : α → Prop} {items : List α} {last : α}

@[simp] lemma not_lastWord_nil : ¬ LastWord decides keeps [] := by simp [LastWord]

/-- One item more has the last word, or keeps what those before have decided. -/
lemma lastWord_concat : LastWord decides keeps (items ++ [last]) ↔
    decides last ∨ keeps last ∧ LastWord decides keeps items := by
  constructor
  · rintro ⟨before, item, after, heq, hdecides, hafter⟩
    rcases List.eq_nil_or_concat after with rfl | ⟨rest, other, rfl⟩
    · obtain ⟨-, hitem⟩ := List.append_inj' heq rfl
      obtain rfl : last = item := by simpa using hitem
      exact .inl hdecides
    · rw [List.concat_eq_append] at heq hafter
      have hsplit : items ++ [last] = (before ++ item :: rest) ++ [other] := by simpa using heq
      obtain ⟨rfl, hother⟩ := List.append_inj' hsplit rfl
      obtain rfl : last = other := by simpa using hother
      exact .inr ⟨hafter last (by simp), before, item, rest, rfl, hdecides,
        fun i hi => hafter i (by simp [hi])⟩
  · rintro (hdecides | ⟨hkeeps, before, item, after, rfl, hdecides, hafter⟩)
    · exact ⟨items, last, [], rfl, hdecides, by simp⟩
    · refine ⟨before, item, after ++ [last], by simp, hdecides, fun i hi => ?_⟩
      rcases List.mem_append.1 hi with hi | hi
      · exact hafter i hi
      · rwa [List.mem_singleton.1 hi]

end

end Estate
