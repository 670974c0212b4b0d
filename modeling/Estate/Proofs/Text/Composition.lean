import Mathlib.Tactic.SplitIfs
import Mathlib.Tactic.Tauto
import Estate.Proofs.Text.Ascii
import Estate.Text.Decomposition

/-!
Composition of texts: what it leaves alone, and what can come out of it.
-/

namespace Estate.Text

variable {cs : List Char} {c d : Char}

/-! ### Parts of characters -/

/-- The parts of a syllable are jamo. -/
lemma isJamo_of_hangulParts {code n : Nat} (h : isHangulSyllable code)
    (hn : n ∈ hangulParts code) : 0x1100 ≤ n ∧ n < 0x11C3 := by
  simp only [isHangulSyllable, Bool.and_eq_true, decide_eq_true_eq] at h
  simp only [hangulParts, List.mem_append, List.mem_cons, List.not_mem_nil, or_false] at hn
  rcases hn with (rfl | rfl) | hn
  · omega
  · omega
  · split at hn <;> simp at hn
    omega

/-- A character is left as it is, or it is a syllable or listed with its parts. -/
lemma decomposeChar_cases (c : Char) : decomposeChar c = [c] ∨ ∃ codes : List Nat,
    192 ≤ c.toNat ∧ decomposeChar c = codes.map Char.ofNat ∧
      ((∀ n ∈ codes, 0x1100 ≤ n ∧ n < 0x11C3) ∨ (c.toNat, codes) ∈ decompositions) := by
  unfold decomposeChar
  split_ifs with hlow hsyllable
  · exact .inl rfl
  · exact .inr ⟨_, by omega, rfl, .inl fun n => isJamo_of_hangulParts hsyllable⟩
  · split
    · next codes hlook =>
      obtain ⟨front, behind, heq, -⟩ := List.lookup_eq_some_iff.1 hlook
      exact .inr ⟨codes, by omega, rfl, .inr (by simp [heq])⟩
    · exact .inl rfl

/-! ### What can come out -/

lemma mem_insertMark {k : Nat} {marks : List Char} :
    d ∈ insertMark c k marks ↔ d = c ∨ d ∈ marks := by
  induction marks with
  | nil => simp [insertMark]
  | cons m marks ih =>
    rw [insertMark]
    split
    · simp [ih, or_left_comm]
    · simp

/-- What is no mark is put behind all marks. -/
lemma insertMark_zero (c : Char) (marks : List Char) : insertMark c 0 marks = c :: marks := by
  cases marks <;> simp [insertMark]

lemma mem_orderMarks : d ∈ orderMarks cs ↔ d ∈ cs := by
  have hfold : ∀ (cs acc : List Char),
      d ∈ cs.foldl (fun acc c => insertMark c (combiningClass c) acc) acc ↔ d ∈ cs ∨ d ∈ acc := by
    intro cs
    induction cs with
    | nil => simp
    | cons c cs ih =>
      intro acc
      rw [List.foldl_cons, ih, mem_insertMark, List.mem_cons]
      tauto
  simp [orderMarks, hfold]

lemma compositions_beyond_ascii : ∀ e ∈ compositions, ∀ f ∈ e.2,
    128 ≤ f.1 ∧ 128 ≤ (Char.ofNat f.2).toNat := by
  decide +kernel

/-- A composite is no ASCII character. -/
lemma le_of_composePair? {a b : Char} (h : composePair? a b = some c) : 128 ≤ c.toNat := by
  simp only [composePair?, isHangulSyllable, Bool.and_eq_true, decide_eq_true_eq, beq_iff_eq] at h
  split_ifs at h with hjamo hsyllable
  · rw [← Option.some.inj h, toNat_ofNat (.inl (by omega))]
    omega
  · rw [← Option.some.inj h, toNat_ofNat (.inl (by omega))]
    omega
  · obtain ⟨n, hn, rfl⟩ := Option.map_eq_some_iff.1 h
    obtain ⟨pairs, hpairs, hlook⟩ := Option.bind_eq_some_iff.1 hn
    obtain ⟨front, behind, heq, -⟩ := List.lookup_eq_some_iff.1 hpairs
    obtain ⟨front', behind', heq', -⟩ := List.lookup_eq_some_iff.1 hlook
    have hmem : (b.toNat, n) ∈ pairs := by simp [heq']
    exact (compositions_beyond_ascii (a.toNat, pairs) (by simp [heq]) (b.toNat, n) hmem).2

lemma mem_flush_step {s : Composing} (h : d ∈ (s.step c).flush) :
    d = c ∨ d ∈ s.flush ∨ 128 ≤ d.toNat := by
  unfold Composing.step at h
  dsimp only at h
  split at h
  · next hs =>
    split at h <;> simp [Composing.flush, hs] at h ⊢ <;> tauto
  · next a hs =>
    split at h
    · next composite hpair =>
      rw [Composing.flush, List.mem_append, Option.toList_some, List.singleton_append,
        List.mem_cons] at h
      have hcomposite : composePair? a c = some composite := by
        split_ifs at hpair
        exact hpair
      rcases h with h | rfl | h
      · simp [Composing.flush, h]
      · exact .inr (.inr (le_of_composePair? hcomposite))
      · simp [Composing.flush, h]
    · split at h <;> simp [Composing.flush, hs] at h ⊢ <;> tauto

/-- What holds of all parts of the characters and of all composites holds of the composed text. -/
lemma forall_compose {p : Char → Prop} (hparts : ∀ c ∈ cs, ∀ d ∈ decomposeChar c, p d)
    (hcomposites : ∀ c : Char, 128 ≤ c.toNat → p c) : ∀ c ∈ compose cs, p c := by
  have hstep : ∀ (s : Composing) (c : Char), p c → (∀ d ∈ s.flush, p d) →
      ∀ d ∈ (s.step c).flush, p d := by
    intro s c hc hs d hd
    rcases mem_flush_step hd with rfl | hd | hd
    · exact hc
    · exact hs d hd
    · exact hcomposites d hd
  have hfold : ∀ (ds : List Char) (s : Composing), (∀ d ∈ ds, p d) → (∀ d ∈ s.flush, p d) →
      ∀ d ∈ (ds.foldl Composing.step s).flush, p d := by
    intro ds
    induction ds with
    | nil => exact fun s _ hs => hs
    | cons d ds ih =>
      exact fun s hds hs => ih _ (fun e he => hds e (List.mem_cons_of_mem d he))
        (hstep s d (hds d (by simp)) hs)
  intro c hc
  rw [compose, List.mem_reverse] at hc
  refine hfold _ _ (fun d hd => ?_) (by simp [Composing.flush]) c hc
  rw [decompose, mem_orderMarks, List.mem_flatMap] at hd
  obtain ⟨c, hc, hd⟩ := hd
  exact hparts c hc d hd

/-! ### ASCII texts -/

/-- Nothing is composed with an ASCII character behind it. -/
lemma composePair?_ascii (a : Char) (h : c.toNat < 128) : composePair? a c = none := by
  simp only [composePair?, Bool.and_eq_true, decide_eq_true_eq]
  rw [if_neg (by omega), if_neg (by omega), Option.map_eq_none_iff, Option.bind_eq_none_iff]
  intro pairs hpairs
  obtain ⟨front, behind, heq, -⟩ := List.lookup_eq_some_iff.1 hpairs
  rw [List.lookup_eq_none_iff]
  intro f hf
  have hlow := (compositions_beyond_ascii (a.toNat, pairs) (by simp [heq]) f hf).1
  simp
  omega

lemma combiningClass_ascii (h : c.toNat < 128) : combiningClass c = 0 :=
  if_pos (by omega)

lemma decompose_ascii (h : ∀ c ∈ cs, c.toNat < 128) : decompose cs = cs := by
  have hparts : cs.flatMap decomposeChar = cs := by
    induction cs with
    | nil => rfl
    | cons c cs ih =>
      obtain ⟨hc, hcs⟩ := List.forall_mem_cons.1 h
      rw [List.flatMap_cons, ih hcs, decomposeChar, if_pos (by omega), List.singleton_append]
  have horder : ∀ (cs acc : List Char), (∀ c ∈ cs, c.toNat < 128) →
      cs.foldl (fun acc c => insertMark c (combiningClass c) acc) acc = cs.reverse ++ acc := by
    intro cs
    induction cs with
    | nil => simp
    | cons c cs ih =>
      intro acc hcs
      obtain ⟨hc, hcs⟩ := List.forall_mem_cons.1 hcs
      rw [List.foldl_cons, combiningClass_ascii hc, insertMark_zero, ih _ hcs]
      simp
  rw [decompose, hparts, orderMarks, horder cs [] h]
  simp

lemma step_ascii {s : Composing} (hs : s.marks = []) (h : c.toNat < 128) :
    (s.step c).marks = [] ∧ (s.step c).flush = c :: s.flush := by
  cases hstarter : s.starter with
  | none => simp [Composing.step, hstarter, combiningClass_ascii h, Composing.flush, hs]
  | some a =>
    simp [Composing.step, hstarter, combiningClass_ascii h, Composing.flush, hs,
      composePair?_ascii a h]

/-- An ASCII text is composed as it is. -/
lemma compose_ascii (h : ∀ c ∈ cs, c.toNat < 128) : compose cs = cs := by
  have hfold : ∀ (cs : List Char) (s : Composing), s.marks = [] → (∀ c ∈ cs, c.toNat < 128) →
      (cs.foldl Composing.step s).flush = cs.reverse ++ s.flush := by
    intro cs
    induction cs with
    | nil => simp
    | cons c cs ih =>
      intro s hs hcs
      obtain ⟨hc, hcs⟩ := List.forall_mem_cons.1 hcs
      obtain ⟨hmarks, hflush⟩ := step_ascii hs hc
      rw [List.foldl_cons, ih _ hmarks hcs, hflush]
      simp
  rw [compose, decompose_ascii h, hfold cs ⟨[], none, []⟩ rfl h]
  simp [Composing.flush]

end Estate.Text
