import Mathlib.Data.List.Basic
import Mathlib.Tactic.Lemma

/-!
Texts cut into parts at a separator, and parts read one by one.
-/

namespace Estate.Text

/-- The parts of a text hold what is in the text, and nothing that it was cut at. -/
lemma mem_of_mem_splitOnP {p : Char → Bool} {cs part : List Char} (h : part ∈ cs.splitOnP p) :
    ∀ c ∈ part, c ∈ cs ∧ p c = false := by
  induction cs generalizing part with
  | nil =>
    rw [List.splitOnP_nil, List.mem_singleton] at h
    simp [h]
  | cons x cs ih =>
    have hlater : ∀ part ∈ cs.splitOnP p, ∀ c ∈ part, c ∈ x :: cs ∧ p c = false :=
      fun part hpart c hc => (ih hpart c hc).imp_left (List.mem_cons_of_mem x)
    rw [List.splitOnP_cons_eq_if_modifyHead] at h
    split_ifs at h with hx
    · rcases List.mem_cons.1 h with rfl | h
      · simp
      · exact hlater part h
    · obtain ⟨first, parts, hparts⟩ := List.exists_cons_of_ne_nil (List.splitOnP_ne_nil p cs)
      rw [hparts] at h hlater
      rcases List.mem_cons.1 h with rfl | h
      · exact List.forall_mem_cons.2 ⟨by simpa using hx, hlater first (by simp)⟩
      · exact hlater part (List.mem_cons_of_mem first h)

lemma forall_intercalate {p : Char → Prop} {sep : Char} {parts : List (List Char)} (hsep : p sep)
    (hparts : ∀ part ∈ parts, ∀ c ∈ part, p c) : ∀ c ∈ [sep].intercalate parts, p c := by
  induction parts with
  | nil => simp
  | cons part parts ih =>
    obtain ⟨hpart, hmore⟩ := List.forall_mem_cons.1 hparts
    cases parts with
    | nil => simpa using hpart
    | cons next parts =>
      rw [List.intercalate_cons_cons]
      intro c hc
      simp only [List.append_assoc, List.mem_append, List.mem_singleton] at hc
      rcases hc with hc | rfl | hc
      · exact hpart c hc
      · exact hsep
      · exact ih hmore c hc

section

variable {α β : Type} {f : α → Option β} {as : List α}

lemma mapM_eq_some_map {g : α → β} (h : ∀ a ∈ as, f a = some (g a)) :
    as.mapM f = some (as.map g) := by
  induction as with
  | nil => rfl
  | cons a as ih =>
    obtain ⟨ha, has⟩ := List.forall_mem_cons.1 h
    rw [List.mapM_cons, ha, ih has]
    rfl

lemma forall_mem_of_mapM {p : β → Prop} {bs : List β} (h : as.mapM f = some bs)
    (hp : ∀ a ∈ as, ∀ b, f a = some b → p b) : ∀ b ∈ bs, p b := by
  induction as generalizing bs with
  | nil =>
    cases h
    simp
  | cons a as ih =>
    obtain ⟨ha, has⟩ := List.forall_mem_cons.1 hp
    rw [List.mapM_cons] at h
    obtain ⟨b, hb, hrest⟩ := Option.bind_eq_some_iff.1 h
    obtain ⟨bs', hbs, hcons⟩ := Option.bind_eq_some_iff.1 hrest
    cases hcons
    exact List.forall_mem_cons.2 ⟨ha b hb, ih hbs has⟩

lemma length_of_mapM {bs : List β} (h : as.mapM f = some bs) : bs.length = as.length := by
  induction as generalizing bs with
  | nil =>
    cases h
    rfl
  | cons a as ih =>
    rw [List.mapM_cons] at h
    obtain ⟨b, hb, hrest⟩ := Option.bind_eq_some_iff.1 h
    obtain ⟨bs', hbs, hcons⟩ := Option.bind_eq_some_iff.1 hrest
    cases hcons
    rw [List.length_cons, List.length_cons, ih hbs]

end

end Estate.Text
