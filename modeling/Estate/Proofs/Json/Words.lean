import Mathlib.Data.List.Chain
import Mathlib.Tactic.Lemma
import Estate.Json.Term

/-!
The words of JSON texts, and how the scan of a text reads them one after the other.

A word is a mark, a run of characters such as a number or a keyword is made of, or a string
literal. Blanks between words do not count, so a text is read like any other text of the same words.
-/

namespace Estate.Json

/-- The characters of numbers and keywords. -/
def isBare (c : Char) : Bool := isNumberChar c || ('a' ≤ c && c ≤ 'z')

/-- Brackets, colon and comma. -/
def isMark (c : Char) : Bool := ['{', '}', '[', ']', ':', ','].contains c

/-- What may stand between the quotes of a string literal. -/
inductive Quotable : List Char → Prop where
  | nil : Quotable []
  | plain {c : Char} {cs : List Char} (hq : c ≠ '"') (hb : c ≠ '\\') (h : Quotable cs) :
    Quotable (c :: cs)
  | escaped (c : Char) {cs : List Char} (h : Quotable cs) : Quotable ('\\' :: c :: cs)

/-- A run of the characters of numbers and keywords. -/
def Bare (w : List Char) : Prop := w ≠ [] ∧ ∀ c ∈ w, isBare c

inductive Word : List Char → Prop where
  | mark {c : Char} (h : isMark c) : Word [c]
  | bare {w : List Char} (h : Bare w) : Word w
  | literal {body : List Char} (h : Quotable body) : Word ('"' :: (body ++ ['"']))

/-- The scan goes on to the end of the text, where a number or keyword may end. -/
def scanOn (s : Scan) (cs : List Char) : Option Scan := (cs.foldlM Scan.step s).bind Scan.settle

/-- Nothing but blanks. -/
def Blanks (g : List Char) : Prop := ∀ c ∈ g, isGap c

/-- A text of words with blanks around them. -/
inductive Spaced : List (List Char) → List Char → Prop where
  | last {g : List Char} (hg : Blanks g) : Spaced [] g
  | word {g w s : List Char} {ws : List (List Char)} (hg : Blanks g) (hs : Spaced ws s) :
    Spaced (w :: ws) (g ++ (w ++ s))

/-- Two words that can stand without a blank between them and not become one. -/
def Apart (v w : List Char) : Prop := ¬ (Bare v ∧ Bare w)

lemma bare_of_all {c : Char} {w : List Char} (h : (c :: w).all isBare = true) : Bare (c :: w) :=
  ⟨by simp, List.all_eq_true.1 h⟩

lemma tokens?_eq (cs : List Char) :
    tokens? cs = (scanOn ⟨[], .gap⟩ cs).map fun s => s.tokens.reverse := rfl

lemma scanOn_cons (s : Scan) (c : Char) (cs : List Char) :
    scanOn s (c :: cs) = (s.step c).bind fun s' => scanOn s' cs := by
  unfold scanOn
  rw [List.foldlM_cons]
  cases s.step c <;> rfl

section

variable {acc : List Token}

lemma scanOn_blanks {g : List Char} (hg : Blanks g) (cs : List Char) :
    scanOn ⟨acc, .gap⟩ (g ++ cs) = scanOn ⟨acc, .gap⟩ cs := by
  induction g with
  | nil => rfl
  | cons c g ih =>
    have hc : isGap c = true := hg c (by simp)
    have hstep : Scan.step ⟨acc, .gap⟩ c = some ⟨acc, .gap⟩ := by
      simp [Scan.step, Scan.start, hc]
    rw [List.cons_append, scanOn_cons, hstep, Option.bind_some]
    exact ih fun d hd => hg d (by simp [hd])

end

/-- Between words, or in a number or keyword. -/
def Scan.Outside (s : Scan) : Prop :=
  match s.mode with
  | .gap => True
  | .number _ => True
  | .word _ => True
  | _ => False

lemma Scan.settle_mode {s s' : Scan} (h : s.settle = some s') : s'.mode = .gap := by
  obtain ⟨ts, m⟩ := s
  cases m with
  | gap => cases h; rfl
  | number read => obtain ⟨l, -, rfl⟩ := Option.map_eq_some_iff.1 h; rfl
  | word read => obtain ⟨t, -, rfl⟩ := Option.map_eq_some_iff.1 h; rfl
  | _ => cases h

lemma Scan.settle_of_gap {s : Scan} (h : s.mode = .gap) : s.settle = some s := by
  unfold Scan.settle
  rw [h]

lemma Scan.step_of_gap {s : Scan} (h : s.mode = .gap) (c : Char) : s.step c = s.start c := by
  unfold Scan.step
  rw [h]

lemma Scan.settle_bind_step (s : Scan) (c : Char) :
    (s.settle.bind fun s' => s'.step c) = s.settle.bind fun s' => s'.start c := by
  cases h : s.settle with
  | none => rfl
  | some s' => exact Scan.step_of_gap (Scan.settle_mode h) c

/-- A character that neither continues a number nor a keyword ends it. -/
lemma Scan.step_settle {s : Scan} (hs : s.Outside) {c : Char} (hc : isBare c = false) :
    s.step c = s.settle.bind fun s' => s'.step c := by
  obtain ⟨hn, hl⟩ : isNumberChar c = false ∧ ('a' ≤ c && c ≤ 'z') = false := by
    simpa [isBare] using hc
  rw [s.settle_bind_step]
  obtain ⟨ts, m⟩ := s
  cases m with
  | gap => rfl
  | number read => simp only [Scan.step, hn]; rfl
  | word read => simp only [Scan.step, hl]; rfl
  | _ => cases hs

lemma isBare_of_number_start {c : Char} (h : (Text.isAsciiDigit c || c == '-') = true) :
    isBare c := by
  rcases Bool.or_eq_true_iff.1 h with h | h <;> simp [isBare, isNumberChar, h]

/-- A character that is a word by itself or starts a literal apart, a number or a keyword starts. -/
lemma Scan.start_other {c : Char} (hgap : isGap c = false) (hmark : isMark c = false)
    (hquote : c ≠ '"') (s : Scan) : s.start c =
      if Text.isAsciiDigit c || c == '-' then some { s with mode := .number [c] }
      else if 'a' ≤ c && c ≤ 'z' then some { s with mode := .word [c] }
      else none := by
  unfold Scan.start
  simp only [hgap, Bool.false_eq_true, if_false]
  split
  case h_7 => exact absurd rfl hquote
  case h_8 => rfl
  all_goals cases hmark

lemma Scan.start_outside {s s' : Scan} {c : Char} (hc : isBare c) (h : s.start c = some s') :
    s'.Outside := by
  unfold Scan.start at h
  split at h
  · cases h; trivial
  · split at h
    case h_7 => exact absurd hc (by decide)
    case h_8 =>
      split at h
      · cases h; trivial
      · split at h
        · cases h; trivial
        · cases h
    all_goals cases h; trivial

lemma Scan.step_outside {s s' : Scan} {c : Char} (hs : s.Outside) (hc : isBare c)
    (h : s.step c = some s') : s'.Outside := by
  obtain ⟨ts, m⟩ := s
  cases m with
  | gap => exact start_outside hc h
  | number read =>
    simp only [step] at h
    split at h
    · cases h; trivial
    · obtain ⟨s₁, -, h⟩ := Option.bind_eq_some_iff.1 h
      exact start_outside hc h
  | word read =>
    simp only [step] at h
    split at h
    · cases h; trivial
    · obtain ⟨s₁, -, h⟩ := Option.bind_eq_some_iff.1 h
      exact start_outside hc h
  | _ => cases hs

/-- What is being read ends where nothing continues it. -/
lemma scanOn_settle {s : Scan} {rest : List Char}
    (h : ∀ c ∈ rest.head?, s.step c = s.settle.bind fun s' => s'.step c) :
    scanOn s rest = s.settle.bind fun s' => scanOn s' rest := by
  cases rest with
  | nil =>
    have hnil : ∀ s : Scan, scanOn s [] = s.settle := fun _ => rfl
    rw [hnil]
    cases hs : s.settle with
    | none => rfl
    | some s' => exact (Scan.settle_of_gap (Scan.settle_mode hs)).symm
  | cons c rest =>
    rw [scanOn_cons, h c rfl]
    cases s.settle with
    | none => rfl
    | some s' => rw [Option.bind_some, Option.bind_some, scanOn_cons]

/-- A run of bare characters is read by itself if what follows does not continue it. -/
lemma scanOn_bare {s : Scan} (hs : s.Outside) {w rest : List Char} (hw : ∀ c ∈ w, isBare c)
    (hrest : ∀ c ∈ rest.head?, isBare c = false) :
    scanOn s (w ++ rest) = (scanOn s w).bind fun s' => scanOn s' rest := by
  induction w generalizing s with
  | nil =>
    exact scanOn_settle fun c hc => Scan.step_settle hs (hrest c hc)
  | cons c w ih =>
    rw [List.cons_append, scanOn_cons, scanOn_cons]
    cases h : s.step c with
    | none => rfl
    | some s' =>
      rw [Option.bind_some, Option.bind_some]
      exact ih (Scan.step_outside hs (hw c (by simp)) h) fun d hd => hw d (by simp [hd])

/-- In a string literal, and not right behind a backslash. -/
def Scan.Inside (s : Scan) : Prop :=
  match s.mode with
  | .text _ => True
  | .unicode _ _ => True
  | _ => False

lemma Scan.step_plain {s s' : Scan} (hs : s.Inside) {c : Char} (hq : c ≠ '"') (hb : c ≠ '\\')
    (h : s.step c = some s') : s'.Inside ∧ s'.tokens = s.tokens := by
  obtain ⟨ts, m⟩ := s
  cases m with
  | text read =>
    simp only [step, beq_iff_eq, hq, hb, if_false] at h
    split at h
    · cases h
    · cases h; exact ⟨trivial, rfl⟩
  | unicode read digits =>
    simp only [step] at h
    split at h
    · cases h
    · split at h <;> cases h <;> exact ⟨trivial, rfl⟩
  | _ => cases hs

lemma Scan.step_backslash {s s' s'' : Scan} (hs : s.Inside) {c : Char}
    (h : s.step '\\' = some s') (h' : s'.step c = some s'') :
    s''.Inside ∧ s''.tokens = s.tokens := by
  obtain ⟨ts, m⟩ := s
  cases m with
  | text read =>
    cases h
    simp only [step] at h'
    split at h'
    · cases h'; exact ⟨trivial, rfl⟩
    · obtain ⟨d, -, rfl⟩ := Option.map_eq_some_iff.1 h'
      exact ⟨trivial, rfl⟩
  | unicode read digits => cases h
  | _ => cases hs

lemma Scan.step_quote {s s' : Scan} (hs : s.Inside) (h : s.step '"' = some s') :
    ∃ x, s' = ⟨.text x :: s.tokens, .gap⟩ := by
  obtain ⟨ts, m⟩ := s
  cases m with
  | text read => cases h; exact ⟨_, rfl⟩
  | unicode read digits => cases h
  | _ => cases hs

/-- The rest of a string literal is read by itself. -/
lemma scanOn_quotable {body : List Char} (hbody : Quotable body) {s : Scan} (hs : s.Inside)
    (rest : List Char) :
    scanOn s (body ++ '"' :: rest) =
      (scanOn s (body ++ ['"'])).bind fun s' => scanOn s' rest := by
  induction hbody generalizing s with
  | nil =>
    rw [List.nil_append, List.nil_append, scanOn_cons, scanOn_cons]
    cases h : s.step '"' with
    | none => rfl
    | some s' =>
      rw [Option.bind_some, Option.bind_some]
      obtain ⟨x, rfl⟩ := Scan.step_quote hs h
      rfl
  | @plain c cs hq hb _ ih =>
    rw [List.cons_append, List.cons_append, scanOn_cons, scanOn_cons]
    cases h : s.step c with
    | none => rfl
    | some s' => exact ih (Scan.step_plain hs hq hb h).1
  | @escaped c cs _ ih =>
    simp only [List.cons_append, scanOn_cons]
    cases h : s.step '\\' with
    | none => rfl
    | some s' =>
      rw [Option.bind_some, Option.bind_some]
      cases h' : s'.step c with
      | none => rfl
      | some s'' => exact ih (Scan.step_backslash hs h h').1

/-- A string literal is one token. -/
lemma scanOn_literal {body : List Char} (hbody : Quotable body) {s s' : Scan} (hs : s.Inside)
    (h : scanOn s (body ++ ['"']) = some s') : ∃ x, s' = ⟨.text x :: s.tokens, .gap⟩ := by
  induction hbody generalizing s with
  | nil =>
    rw [List.nil_append, scanOn_cons] at h
    obtain ⟨s₁, hstep, h⟩ := Option.bind_eq_some_iff.1 h
    obtain ⟨x, rfl⟩ := Scan.step_quote hs hstep
    cases h
    exact ⟨x, rfl⟩
  | plain hq hb _ ih =>
    rw [List.cons_append, scanOn_cons] at h
    obtain ⟨s₁, hstep, h⟩ := Option.bind_eq_some_iff.1 h
    obtain ⟨hs₁, htokens⟩ := Scan.step_plain hs hq hb hstep
    rw [← htokens]
    exact ih hs₁ h
  | escaped c _ ih =>
    rw [List.cons_append, List.cons_append, scanOn_cons] at h
    obtain ⟨s₁, hstep, h⟩ := Option.bind_eq_some_iff.1 h
    rw [scanOn_cons] at h
    obtain ⟨s₂, hstep₂, h⟩ := Option.bind_eq_some_iff.1 h
    obtain ⟨hs₂, htokens⟩ := Scan.step_backslash hs hstep hstep₂
    rw [← htokens]
    exact ih hs₂ h

section

variable {acc : List Token}

lemma mark_cases {c : Char} (h : isMark c) :
    c = '{' ∨ c = '}' ∨ c = '[' ∨ c = ']' ∨ c = ':' ∨ c = ',' := by
  simpa [isMark] using h

/-- A word is read by itself, unless it is bare and what follows continues it. -/
lemma scanOn_word {w rest : List Char} (hw : Word w)
    (hrest : Bare w → ∀ c ∈ rest.head?, isBare c = false) :
    scanOn ⟨acc, .gap⟩ (w ++ rest) =
      (scanOn ⟨acc, .gap⟩ w).bind fun s => scanOn s rest := by
  cases hw with
  | mark h => rcases mark_cases h with rfl | rfl | rfl | rfl | rfl | rfl <;> rfl
  | bare h => exact scanOn_bare (s := ⟨acc, .gap⟩) trivial h.2 (hrest h)
  | @literal body h =>
    have hquote : Scan.step ⟨acc, .gap⟩ '"' = some ⟨acc, .text []⟩ := rfl
    rw [List.cons_append, scanOn_cons, scanOn_cons, hquote, List.append_assoc]
    exact scanOn_quotable h (s := ⟨acc, .text []⟩) trivial rest

end

lemma isBare_of_isGap {c : Char} (h : isGap c) : isBare c = false := by
  have hc : c = ' ' ∨ c = '\t' ∨ c = '\n' ∨ c = '\r' := by
    simpa [isGap, or_assoc] using h
  rcases hc with rfl | rfl | rfl | rfl <;> decide

lemma isBare_of_isMark {c : Char} (h : isMark c) : isBare c = false := by
  rcases mark_cases h with rfl | rfl | rfl | rfl | rfl | rfl <;> decide

lemma isGap_of_isBare {c : Char} (h : isBare c) : isGap c = false := by
  cases hc : isGap c with
  | false => rfl
  | true =>
    rw [isBare_of_isGap hc] at h
    cases h

lemma isMark_of_isBare {c : Char} (h : isBare c) : isMark c = false := by
  cases hc : isMark c with
  | false => rfl
  | true =>
    rw [isBare_of_isMark hc] at h
    cases h

lemma isGap_of_isMark {c : Char} (h : isMark c) : isGap c = false := by
  rcases mark_cases h with rfl | rfl | rfl | rfl | rfl | rfl <;> rfl

/-- What starts a word that is not bare does not continue a number or keyword. -/
lemma Word.head_not_bare {w : List Char} (hw : Word w) (hb : ¬ Bare w) :
    ∃ c cs, w = c :: cs ∧ isBare c = false := by
  cases hw with
  | mark h => exact ⟨_, _, rfl, isBare_of_isMark h⟩
  | bare h => exact absurd h hb
  | literal h => exact ⟨_, _, rfl, by decide⟩

lemma Spaced.head_not_bare {ws : List (List Char)} {s : List Char} (hs : Spaced ws s)
    (hw : ∀ w ∈ ws.head?, Word w ∧ ¬ Bare w) : ∀ c ∈ s.head?, isBare c = false := by
  have hblank : ∀ {g : List Char} {d : Char}, Blanks g → d ∈ g.head? → isBare d = false :=
    fun hg hd => isBare_of_isGap (hg _ (List.mem_of_mem_head? hd))
  cases hs with
  | last hg => exact fun c hc => hblank hg hc
  | @word g w s ws hg _ =>
    obtain ⟨d, ds, rfl, hd⟩ := (hw w rfl).1.head_not_bare (hw w rfl).2
    intro c hc
    cases g with
    | nil =>
      obtain rfl : d = c := by simpa using hc
      exact hd
    | cons b g => exact hblank hg hc

/-- How a text is read depends on its words alone. -/
lemma scanOn_spaced {ws : List (List Char)} {s : List Char} (hs : Spaced ws s)
    (hw : ∀ w ∈ ws, Word w) (ha : ws.IsChain Apart) (acc : List Token) :
    scanOn ⟨acc, .gap⟩ s = ws.foldlM scanOn ⟨acc, .gap⟩ := by
  induction hs generalizing acc with
  | @last g hg =>
    have h : scanOn ⟨acc, .gap⟩ (g ++ []) = scanOn ⟨acc, .gap⟩ [] := scanOn_blanks hg []
    rw [List.append_nil] at h
    exact h
  | @word g w s ws hg hs ih =>
    rw [scanOn_blanks hg, List.foldlM_cons, scanOn_word (hw w (by simp))]
    · cases h : scanOn ⟨acc, .gap⟩ w with
      | none => rfl
      | some s' =>
        obtain ⟨ts, m⟩ := s'
        obtain ⟨s₀, -, hset⟩ := Option.bind_eq_some_iff.1 h
        obtain rfl : m = .gap := Scan.settle_mode hset
        exact ih (fun v hv => hw v (by simp [hv])) (List.isChain_cons.1 ha).2 ts
    · intro hbare
      refine hs.head_not_bare fun v hv => ⟨hw v ?_, fun hvb => ?_⟩
      · exact List.mem_cons_of_mem w (List.mem_of_mem_head? hv)
      · exact (List.isChain_cons.1 ha).1 v hv ⟨hbare, hvb⟩

end Estate.Json
