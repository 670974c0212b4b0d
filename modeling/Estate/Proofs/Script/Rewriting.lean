import Mathlib.Data.List.Infix
import Estate.Proofs.Json.Printing
import Estate.Proofs.Script.Rendering

/-!
The rewriting of literals to JSON: double quotes for single ones, no commas before closing brackets,
and quotes around keys. It takes no notice of string literals, and changes what stands in them.
-/

namespace Estate.Script

open Json (Value Spells Spaced Word Bare Blanks Quotable IsCloser isBare isGap isMark)
open Lenient (Trailing closes)

/-- Nothing but blanks, JSON's and others. -/
def AllBlank (g : List Char) : Prop := ∀ c ∈ g, Text.isBlank c

lemma allBlank_of_blanks {g : List Char} (hg : Blanks g) : AllBlank g :=
  fun c hc => Lenient.isBlank_of_isGap (hg c hc)

/-- The contents of a string literal in which nothing is rewritten: no apostrophe, no comma with a
closing bracket next, and no key with its colon next to an opening brace or a comma. -/
structure Untouched (body : List Char) : Prop where
  apostrophe : '\'' ∉ body
  comma : ∀ g c, AllBlank g → (c = '\x7d' ∨ c = ']') → ¬ ',' :: (g ++ [c]) <:+: body
  key : ∀ c g name g', (c = '\x7b' ∨ c = ',') → AllBlank g → IsKey name → AllBlank g' →
    ¬ c :: (g ++ (name ++ (g' ++ [':']))) <:+: body

/-- A word of a rendering in which nothing is rewritten. -/
inductive Kept : List Char → Prop where
  | mark {c : Char} (h : isMark c) : Kept [c]
  | bare {w : List Char} (h : Bare w) : Kept w
  | literal {body : List Char} (hbody : Quotable body) (h : Untouched body) :
    Kept ('"' :: (body ++ ['"']))
  | key {w : List Char} (h : IsKey w) : Kept w

/-! ### Suffixes of string literals -/

lemma exists_suffix_of_literal {body s : List Char} {c : Char} (hc : c ≠ '"')
    (h : c :: s <:+ '"' :: (body ++ ['"'])) : ∃ s', s = s' ++ ['"'] ∧ c :: s' <:+ body := by
  rcases List.suffix_cons_iff.1 h with heq | h
  · exact absurd (List.cons.inj heq).1 hc
  · rcases List.suffix_concat_iff.1 h with hnil | ⟨_ | ⟨d, s'⟩, heq, hsuffix⟩
    · cases hnil
    · exact absurd (List.cons.inj heq).1 hc
    · obtain ⟨rfl, rfl⟩ := List.cons.inj heq
      exact ⟨s', rfl, hsuffix⟩

/-- What stands before the end of a string literal is part of its contents. -/
lemma prefix_of_literal {l s t : List Char} (hl : '"' ∉ l) (h : l <+: s ++ '"' :: t) : l <+: s := by
  rcases List.prefix_or_prefix_of_prefix h (List.prefix_append s _) with hstart | ⟨m, rfl⟩
  · exact hstart
  · cases m with
    | nil => simp
    | cons c m =>
      rw [List.prefix_append_right_inj] at h
      obtain ⟨rfl, -⟩ := List.cons_prefix_cons.1 h
      exact absurd (by simp) hl

/-! ### Apostrophes -/

lemma Kept.apostrophe {w : List Char} (h : Kept w) : '\'' ∉ w := by
  intro hmem
  cases h with
  | mark h =>
    obtain rfl := List.mem_singleton.1 hmem
    cases h
  | bare h => exact absurd (h.2 _ hmem) (by decide)
  | literal _ h => exact h.apostrophe (by simpa using hmem)
  | key h => exact absurd (h.part _ hmem) (by decide)

lemma apostrophe_of_spaced {ws : List (List Char)} {s : List Char} (hs : Spaced ws s)
    (hw : ∀ w ∈ ws, Kept w) : '\'' ∉ s := by
  have hblank {g : List Char} (hg : Blanks g) : '\'' ∉ g := fun hmem => by cases hg _ hmem
  induction hs with
  | last hg => exact hblank hg
  | @word g w s ws hg _ ih =>
    have hrest := ih fun v hv => hw v (by simp [hv])
    have hword := (hw w (by simp)).apostrophe
    simp [hblank hg, hword, hrest]

/-! ### Commas -/

section

variable {s t w : List Char} {c : Char}

lemma head?_closes (cs : List Char) :
    ((cs.dropWhile Text.isBlank).head? == some '\x7d' ||
      (cs.dropWhile Text.isBlank).head? == some ']') = closes cs := by
  unfold closes Text.trimStart
  split
  · next h => simp [h]
  · next h => simp [h]
  · next hbrace hbracket =>
    exact Bool.or_eq_false_iff.2 ⟨beq_eq_false_iff_ne.2 hbrace, beq_eq_false_iff_ne.2 hbracket⟩

/-- A bracket closes next where the text starts with blanks and the bracket. -/
lemma closes_iff {cs : List Char} :
    closes cs = true ↔ ∃ g c, AllBlank g ∧ (c = '\x7d' ∨ c = ']') ∧ g ++ [c] <+: cs := by
  rw [← head?_closes, Bool.or_eq_true, beq_iff_eq, beq_iff_eq]
  constructor
  · intro h
    obtain ⟨c, hc, hhead⟩ :
        ∃ c, (c = '\x7d' ∨ c = ']') ∧ (cs.dropWhile Text.isBlank).head? = some c :=
      h.elim (fun h => ⟨_, .inl rfl, h⟩) fun h => ⟨_, .inr rfl, h⟩
    obtain ⟨g, hg, hsplit⟩ := Text.exists_split Text.isBlank cs
    obtain ⟨rest, hrest⟩ := List.head?_eq_some_iff.1 hhead
    refine ⟨g, c, hg, hc, rest, ?_⟩
    rw [List.append_assoc, List.singleton_append, ← hrest, ← hsplit]
  · rintro ⟨g, c, hg, hc, rest, rfl⟩
    have hhead : ∀ d ∈ (c :: rest).head?, Text.isBlank d = false := by
      intro d hd
      cases hd
      rcases hc with rfl | rfl <;> decide
    rw [List.append_assoc, List.singleton_append, Text.dropWhile_append_of_all hg hhead]
    exact hc.imp (congrArg some) (congrArg some)

lemma dropCommas_cons (c : Char) (cs : List Char) :
    dropCommasFrom 0 (c :: cs) =
      if c == ',' && closes cs then dropCommasFrom (cs.takeWhile Text.isBlank).length cs
      else c :: dropCommasFrom 0 cs := by
  rw [dropCommasFrom, Text.drop_takeWhile, head?_closes]

lemma dropCommas_skip (g t : List Char) :
    dropCommasFrom g.length (g ++ t) = dropCommasFrom 0 t := by
  induction g with
  | nil => rfl
  | cons c g ih => rw [List.length_cons, List.cons_append, dropCommasFrom, ih]

/-- A comma before a closing bracket goes, with the blanks between. -/
lemma dropCommas_comma {g : List Char} (hg : AllBlank g)
    (ht : ∀ c ∈ t.head?, Text.isBlank c = false) (h : closes (g ++ t) = true) :
    dropCommasFrom 0 (',' :: (g ++ t)) = dropCommasFrom 0 t := by
  rw [dropCommas_cons, h, Text.takeWhile_append_of_all hg ht]
  exact dropCommas_skip g t

/-- A text without such commas stays. -/
lemma dropCommas_append (h : ∀ s, ',' :: s <:+ w → closes (s ++ t) = false) :
    dropCommasFrom 0 (w ++ t) = w ++ dropCommasFrom 0 t := by
  induction w with
  | nil => rfl
  | cons c w ih =>
    have hrest : dropCommasFrom 0 (w ++ t) = w ++ dropCommasFrom 0 t :=
      ih fun s hs => h s (hs.trans (List.suffix_cons c w))
    have hstay : (c == ',' && closes (w ++ t)) = false := by
      rw [Bool.and_eq_false_imp, beq_iff_eq]
      rintro rfl
      exact h w List.suffix_rfl
    rw [List.cons_append, dropCommas_cons, hstay, hrest]
    rfl

lemma dropCommas_of_not_mem (h : ',' ∉ w) (t : List Char) :
    dropCommasFrom 0 (w ++ t) = w ++ dropCommasFrom 0 t :=
  dropCommas_append fun _ hs => absurd (hs.subset (by simp)) h

/-- In the contents of a string literal that is not rewritten no bracket closes behind a comma. -/
lemma Untouched.closes {body : List Char} (h : Untouched body) (hs : ',' :: s <:+ body)
    (t : List Char) : closes (s ++ '"' :: t) = false := by
  rw [Bool.eq_false_iff]
  intro hcloses
  obtain ⟨g, c, hg, hc, hstart⟩ := closes_iff.1 hcloses
  have hquote : '"' ∉ g ++ [c] := by
    rw [List.mem_append, List.mem_singleton]
    rintro (hmem | rfl)
    · exact absurd (hg _ hmem) (by decide)
    · rcases hc with hc | hc <;> cases hc
  have hcomma : ',' :: (g ++ [c]) <+: ',' :: s :=
    List.cons_prefix_cons.2 ⟨rfl, prefix_of_literal hquote hstart⟩
  exact h.comma g c hg hc (hcomma.isInfix.trans hs.isInfix)

lemma Kept.dropCommas (h : Kept w) (hcomma : w = [','] → Lenient.closes t = false) :
    dropCommasFrom 0 (w ++ t) = w ++ dropCommasFrom 0 t := by
  cases h with
  | @mark c hmark =>
    by_cases hc : c = ','
    · subst hc
      rw [List.singleton_append, dropCommas_cons, hcomma rfl]
      rfl
    · exact dropCommas_of_not_mem (by simpa using Ne.symm hc) t
  | bare h =>
    exact dropCommas_of_not_mem (fun hmem => absurd (h.2 _ hmem) (by decide)) t
  | @literal body _ h =>
    refine dropCommas_append fun s hs => ?_
    obtain ⟨s', rfl, hbody⟩ := exists_suffix_of_literal (by decide) hs
    rw [List.append_assoc]
    exact h.closes hbody t
  | key h =>
    exact dropCommas_of_not_mem (fun hmem => absurd (h.part _ hmem) (by decide)) t

lemma Kept.closes (h : Kept w) (t : List Char) :
    Lenient.closes (w ++ t) = true ↔ IsCloser w := by
  cases h with
  | mark h => exact Lenient.closes_word (.mark h) t
  | bare h => exact Lenient.closes_word (.bare h) t
  | literal hbody _ => exact Lenient.closes_word (.literal hbody) t
  | key h =>
    refine iff_of_false (fun hcloses => ?_) h.not_closer
    obtain ⟨c, w, rfl⟩ := List.exists_cons_of_ne_nil h.ne_nil
    have hpart : isKeyPart c := h.part c (by simp)
    rw [← head?_closes, List.cons_append,
      List.dropWhile_cons_of_neg (by simp [not_isBlank_of_isKeyPart hpart]), List.head?_cons,
      Bool.or_eq_true, beq_iff_eq, beq_iff_eq] at hcloses
    rcases hcloses with hclose | hclose <;> (cases hclose; exact absurd hpart (by decide))

/-- Commas are taken out where they were added, and nowhere else. -/
lemma dropCommas_spaced {allows : List Char → Prop} {before : List Char} {us vs : List (List Char)}
    (ht : Trailing allows before us vs) (hs : Spaced vs s) (hkept : ∀ w ∈ vs, Kept w)
    (hfull : us.IsChain fun v w => v = [','] → ¬ IsCloser w) :
    Spaced us (dropCommasFrom 0 s) := by
  have hblanks {g : List Char} (hg : Blanks g) (t : List Char) :
      dropCommasFrom 0 (g ++ t) = g ++ dropCommasFrom 0 t :=
    dropCommas_of_not_mem (fun hmem => by cases hg _ hmem) t
  induction ht generalizing s with
  | nil =>
    cases hs with
    | last hg =>
      rw [← List.append_nil s, hblanks hg, dropCommasFrom, List.append_nil]
      exact .last hg
  | @keep before w us vs ht ih =>
    obtain ⟨hnext, hfull⟩ := List.isChain_cons.1 hfull
    have hkept' : ∀ v ∈ vs, Kept v := fun v hv => hkept v (by simp [hv])
    cases hs with
    | @word g _ s _ hg hs =>
      have hcomma : w = [','] → Lenient.closes s = false := by
        rintro rfl
        rw [Bool.eq_false_iff, ne_eq, Lenient.closes_ahead hs fun v hv =>
          (hkept' v (List.mem_of_mem_head? hv)).closes]
        rintro ⟨v, hv, hclose⟩
        exact hnext v (ht.head_closer hv hclose) rfl hclose
      rw [hblanks hg, (hkept w (by simp)).dropCommas hcomma]
      exact .word hg (ih hs hkept' hfull)
  | @comma before w us vs _ hclose _ ih =>
    obtain ⟨-, hfull⟩ := List.isChain_cons.1 hfull
    have hw : Kept w := hkept w (by simp)
    cases hs with
    | @word g _ s _ hg hs =>
      cases hs with
      | @word g' _ s _ hg' hs =>
        have hnext : Lenient.closes (g' ++ (w ++ s)) = true := by
          rw [Lenient.closes_blanks hg', hw.closes]
          exact hclose
        have hcomma : w = [','] → Lenient.closes s = false := by
          rintro rfl
          rcases hclose with h | h <;> cases h
        have hhead : ∀ c ∈ (w ++ s).head?, Text.isBlank c = false := by
          rcases hclose with rfl | rfl
          all_goals
            intro c hc
            cases hc
            decide
        rw [hblanks hg, List.singleton_append,
          dropCommas_comma (allBlank_of_blanks hg') hhead hnext,
          hw.dropCommas hcomma]
        exact .word hg (ih hs (fun v hv => hkept v (by simp [hv])) hfull)

end

/-! ### Keys -/

section

variable {s t w g name : List Char} {c : Char}

lemma bareKey?_eq (cs : List Char) :
    bareKey? cs =
      let g := cs.takeWhile Text.isBlank
      let name := (cs.dropWhile Text.isBlank).takeWhile isKeyPart
      let behind := (cs.dropWhile Text.isBlank).dropWhile isKeyPart
      if name.head?.any isKeyStart && (behind.dropWhile Text.isBlank).head? == some ':' then
        some (g, name, g.length + name.length + (behind.takeWhile Text.isBlank).length + 1)
      else none := by
  rw [bareKey?]
  simp only [Text.drop_takeWhile]

/-- A key is found where one stands with its colon behind. -/
lemma bareKey?_key {g' : List Char} (hg : AllBlank g) (hname : IsKey name) (hg' : AllBlank g')
    (t : List Char) :
    bareKey? (g ++ (name ++ (g' ++ ':' :: t))) =
      some (g, name, g.length + name.length + g'.length + 1) := by
  obtain ⟨d, w, rfl⟩ := List.exists_cons_of_ne_nil hname.ne_nil
  have hstart : ∀ c ∈ ((d :: w) ++ (g' ++ ':' :: t)).head?, Text.isBlank c = false := by
    intro c hc
    cases hc
    exact not_isBlank_of_isKeyPart (hname.part d (by simp))
  have hend : ∀ c ∈ (g' ++ ':' :: t).head?, isKeyPart c = false := by
    intro c hc
    cases g' with
    | nil =>
      cases hc
      decide
    | cons b g' =>
      cases hc
      exact not_isKeyPart_of_isBlank (hg' c (by simp))
  have hcolon : ∀ c ∈ (':' :: t).head?, Text.isBlank c = false := by
    intro c hc
    cases hc
    decide
  rw [bareKey?_eq, Text.dropWhile_append_of_all hg hstart, Text.takeWhile_append_of_all hg hstart,
    Text.dropWhile_append_of_all hname.part hend, Text.takeWhile_append_of_all hname.part hend]
  dsimp only
  rw [Text.dropWhile_append_of_all hg' hcolon, Text.takeWhile_append_of_all hg' hcolon]
  obtain ⟨hd, -⟩ := hname
  simp [hd]

lemma isKey_of_head (hpart : ∀ c ∈ name, isKeyPart c) (h : name.head?.any isKeyStart) :
    IsKey name := by
  cases name with
  | nil => cases h
  | cons c w => exact .mk h fun d hd => hpart d (by simp [hd])

/-- A key is found where the text starts with blanks, the key, blanks and a colon. -/
lemma bareKey?_ne_none_iff {cs : List Char} :
    bareKey? cs ≠ none ↔ ∃ g name g', AllBlank g ∧ IsKey name ∧ AllBlank g' ∧
      g ++ (name ++ (g' ++ [':'])) <+: cs := by
  constructor
  · intro h
    rw [bareKey?_eq] at h
    dsimp only at h
    split at h
    · next hfound =>
      rw [Bool.and_eq_true, beq_iff_eq] at hfound
      obtain ⟨hstart, hcolon⟩ := hfound
      obtain ⟨t, ht⟩ := List.head?_eq_some_iff.1 hcolon
      obtain ⟨g, hg, hkey⟩ := Text.exists_split Text.isBlank cs
      obtain ⟨g', hg', hbehind⟩ := Text.exists_split Text.isBlank
        ((cs.dropWhile Text.isBlank).dropWhile isKeyPart)
      have hname : IsKey ((cs.dropWhile Text.isBlank).takeWhile isKeyPart) :=
        isKey_of_head (fun _ => List.mem_takeWhile_imp) hstart
      refine ⟨g, _, g', hg, hname, hg', t, ?_⟩
      rw [List.append_assoc, List.append_assoc, List.append_assoc, List.singleton_append, ← ht,
        ← hbehind, List.takeWhile_append_dropWhile, ← hkey]
    · exact absurd rfl h
  · rintro ⟨g, name, g', hg, hname, hg', t, rfl⟩
    have hassoc : g ++ (name ++ (g' ++ [':'])) ++ t = g ++ (name ++ (g' ++ ':' :: t)) := by simp
    rw [hassoc, bareKey?_key hg hname hg']
    simp

lemma quoteKeys_skip (g t : List Char) : quoteKeysFrom g.length (g ++ t) = quoteKeysFrom 0 t := by
  induction g with
  | nil => rfl
  | cons c g ih => rw [List.length_cons, List.cons_append, quoteKeysFrom, ih]

/-- A text without keys behind opening braces and commas stays. -/
lemma quoteKeys_append
    (h : ∀ c s, (c = '\x7b' ∨ c = ',') → c :: s <:+ w → bareKey? (s ++ t) = none) :
    quoteKeysFrom 0 (w ++ t) = w ++ quoteKeysFrom 0 t := by
  induction w with
  | nil => rfl
  | cons c w ih =>
    have hrest : quoteKeysFrom 0 (w ++ t) = w ++ quoteKeysFrom 0 t :=
      ih fun d s hd hs => h d s hd (hs.trans (List.suffix_cons c w))
    have hstay : (if c == '\x7b' || c == ',' then bareKey? (w ++ t) else none) = none := by
      split
      · next hc =>
        rw [Bool.or_eq_true, beq_iff_eq, beq_iff_eq] at hc
        exact h c w hc List.suffix_rfl
      · rfl
    rw [List.cons_append, quoteKeysFrom, hstay, hrest]
    rfl

lemma quoteKeys_of_not_mem (h : '\x7b' ∉ w ∧ ',' ∉ w) (t : List Char) :
    quoteKeysFrom 0 (w ++ t) = w ++ quoteKeysFrom 0 t :=
  quoteKeys_append fun c s hc hs => by
    have hmem : c ∈ w := hs.subset (by simp)
    rcases hc with rfl | rfl
    · exact absurd hmem h.1
    · exact absurd hmem h.2

/-- A key behind an opening brace or a comma gets quotes. -/
lemma quoteKeys_key {g' : List Char} (hc : c = '\x7b' ∨ c = ',') (hg : AllBlank g)
    (hname : IsKey name) (hg' : AllBlank g') (t : List Char) :
    quoteKeysFrom 0 (c :: (g ++ (name ++ (g' ++ ':' :: t)))) =
      c :: (g ++ '"' :: (name ++ '"' :: ':' :: quoteKeysFrom 0 t)) := by
  have hskip : quoteKeysFrom (g.length + name.length + g'.length + 1)
      (g ++ (name ++ (g' ++ ':' :: t))) = quoteKeysFrom 0 t := by
    have hwhole := quoteKeys_skip (g ++ (name ++ (g' ++ [':']))) t
    simpa [Nat.add_assoc] using hwhole
  have hopens : (c == '\x7b' || c == ',') = true := by rcases hc with rfl | rfl <;> rfl
  rw [quoteKeysFrom, hopens, if_pos rfl, bareKey?_key hg hname hg']
  dsimp only
  rw [hskip]

/-- In the contents of a string literal that is not rewritten no key stands behind a comma or an
opening brace. -/
lemma Untouched.bareKey? {body : List Char} (h : Untouched body) (hc : c = '\x7b' ∨ c = ',')
    (hs : c :: s <:+ body) (t : List Char) : bareKey? (s ++ '"' :: t) = none := by
  by_contra hkey
  obtain ⟨g, name, g', hg, hname, hg', hstart⟩ := bareKey?_ne_none_iff.1 hkey
  have hquote : '"' ∉ g ++ (name ++ (g' ++ [':'])) := by
    simp only [List.mem_append, List.mem_singleton]
    rintro (hmem | hmem | hmem | hmem)
    · exact absurd (hg _ hmem) (by decide)
    · exact absurd (hname.part _ hmem) (by decide)
    · exact absurd (hg' _ hmem) (by decide)
    · cases hmem
  have hopened : c :: (g ++ (name ++ (g' ++ [':']))) <+: c :: s :=
    List.cons_prefix_cons.2 ⟨rfl, prefix_of_literal hquote hstart⟩
  exact h.key c g name g' hc hg hname hg' (hopened.isInfix.trans hs.isInfix)

lemma Kept.quoteKeys (h : Kept w) (hkey : w = ['\x7b'] ∨ w = [','] → Script.bareKey? t = none) :
    quoteKeysFrom 0 (w ++ t) = w ++ quoteKeysFrom 0 t := by
  cases h with
  | @mark c hmark =>
    refine quoteKeys_append fun d s hd hs => ?_
    rcases List.suffix_cons_iff.1 hs with heq | hnil
    · obtain ⟨rfl, rfl⟩ := List.cons.inj heq
      exact hkey (by simpa using hd)
    · cases List.suffix_nil.1 hnil
  | bare h =>
    refine quoteKeys_of_not_mem ⟨fun hmem => ?_, fun hmem => ?_⟩ t
    · exact absurd (h.2 _ hmem) (by decide)
    · exact absurd (h.2 _ hmem) (by decide)
  | @literal body _ h =>
    refine quoteKeys_append fun d s hd hs => ?_
    have hne : d ≠ '"' := by rcases hd with rfl | rfl <;> decide
    obtain ⟨s', rfl, hbody⟩ := exists_suffix_of_literal hne hs
    rw [List.append_assoc]
    exact h.bareKey? hd hbody t
  | key h =>
    refine quoteKeys_of_not_mem ⟨fun hmem => ?_, fun hmem => ?_⟩ t
    · exact absurd (h.part _ hmem) (by decide)
    · exact absurd (h.part _ hmem) (by decide)

lemma not_isBlank_of_isMark (h : isMark c) : Text.isBlank c = false := by
  rcases Json.mark_cases h with rfl | rfl | rfl | rfl | rfl | rfl <;> decide

lemma bareKey?_eq_none (hg : AllBlank g) (hs : ∀ c ∈ s.head?, Text.isBlank c = false)
    (h : s.takeWhile isKeyPart = [] ∨
      ((s.dropWhile isKeyPart).dropWhile Text.isBlank).head? ≠ some ':') :
    Script.bareKey? (g ++ s) = none := by
  rw [bareKey?_eq, Text.dropWhile_append_of_all hg hs]
  rcases h with h | h <;> simp [h]

/-- Where a part has ended, no key goes on and no colon comes next. -/
lemma ended_spaced {us : List (List Char)} (hs : Spaced us s)
    (hus : ∀ w ∈ us.head?, w = [','] ∨ IsCloser w) :
    (∀ c ∈ s.head?, isKeyPart c = false) ∧ (s.dropWhile Text.isBlank).head? ≠ some ':' := by
  cases hs with
  | last hg =>
    have hblank := allBlank_of_blanks hg
    refine ⟨fun c hc => not_isKeyPart_of_isBlank (hblank c (List.mem_of_mem_head? hc)), ?_⟩
    rw [List.dropWhile_eq_nil_iff.2 hblank]
    simp
  | @word g w s us hg _ =>
    obtain ⟨c, rfl, hmark, hcolon⟩ : ∃ c, w = [c] ∧ isMark c ∧ c ≠ ':' := by
      rcases hus w rfl with rfl | rfl | rfl
      all_goals exact ⟨_, rfl, by decide, by decide⟩
    constructor
    · intro d hd
      cases g with
      | nil =>
        cases hd
        exact not_isKeyPart_of_isMark hmark
      | cons b g =>
        cases hd
        exact not_isKeyPart_of_isBlank (allBlank_of_blanks hg d (by simp))
    · have hhead : ∀ d ∈ ([c] ++ s).head?, Text.isBlank d = false := by
        intro d hd
        cases hd
        exact not_isBlank_of_isMark hmark
      rw [Text.dropWhile_append_of_all (allBlank_of_blanks hg) hhead]
      simpa using hcolon

/-- Before a word that writes a token no key is found. -/
lemma Bared.bareKey? {ts : List Json.Token} {us : List (List Char)} (hb : Bared ts us)
    (hs : Spaced us s) (hts : ts.IsChain Json.Token.Meets) : Script.bareKey? s = none := by
  cases hs with
  | last hg =>
    rw [← List.append_nil s]
    exact bareKey?_eq_none (allBlank_of_blanks hg) (by simp) (.inl rfl)
  | @word g w s us hg hs =>
    obtain ⟨t, hw, hnext⟩ :
        ∃ t, Spells w t ∧ (t.Atomic → ∀ v ∈ us.head?, v = [','] ∨ IsCloser v) := by
      cases hb with
      | word hw hb =>
        exact ⟨_, hw, fun ht => hb.head_ended fun u hu =>
          ((List.isChain_cons.1 hts).1 u hu).ended ht⟩
      | key hmark ht _ _ =>
        refine ⟨_, hmark, fun hatomic => ?_⟩
        rcases ht with rfl | rfl <;> cases hatomic
    cases hw.shape with
    | @mark c _ hmark =>
      have hc := Json.isMark_of_mark? hmark
      refine bareKey?_eq_none (allBlank_of_blanks hg) (fun d hd => ?_) (.inl ?_)
      · cases hd
        exact not_isBlank_of_isMark hc
      · exact List.takeWhile_cons_of_neg (by simp [not_isKeyPart_of_isMark hc])
    | literal _ =>
      refine bareKey?_eq_none (allBlank_of_blanks hg) (fun d hd => ?_) (.inl ?_)
      · cases hd
        decide
      · exact List.takeWhile_cons_of_neg (by decide)
    | bare hbare hatomic =>
      obtain ⟨hpart, hcolon⟩ := ended_spaced hs (hnext hatomic)
      refine bareKey?_eq_none (allBlank_of_blanks hg) (fun d hd => ?_) (.inr ?_)
      · obtain ⟨c, w, rfl⟩ := List.exists_cons_of_ne_nil hbare.1
        cases hd
        exact Lenient.not_isBlank_of_isBare (hbare.2 d (by simp))
      · cases hrest : w.dropWhile isKeyPart with
        | nil =>
          rw [Text.dropWhile_append_of_all (List.dropWhile_eq_nil_iff.1 hrest) hpart]
          exact hcolon
        | cons c rest =>
          have hmem : c ∈ w := (List.dropWhile_suffix isKeyPart).subset (by simp [hrest])
          have hc : isBare c := hbare.2 c hmem
          have hne : c ≠ ':' := by
            rintro rfl
            exact absurd hc (by decide)
          rw [List.dropWhile_append, hrest, List.isEmpty_cons, if_neg (by simp), List.cons_append,
            List.dropWhile_cons_of_neg (by simp [Lenient.not_isBlank_of_isBare hc])]
          simpa using hne

lemma escape_of_isKeyPart (h : isKeyPart c) : Json.escape c = [c] := by
  have hlow : ¬ c.toNat < 32 := by
    intro hlow
    have hall : ∀ n < 32, isKeyPart (.ofNat n) = false := by decide
    have hc := hall c.toNat hlow
    rw [Char.ofNat_toNat, h] at hc
    cases hc
  unfold Json.escape
  split
  case h_8 => exact if_neg hlow
  all_goals exact absurd h (by decide)

/-- A key in quotes is the key. -/
lemma spells_key (h : IsKey name) :
    Spells ('"' :: (name ++ ['"'])) (.text (some (.ofList name))) := by
  have hplain : name.flatMap Json.escape = name := by
    refine (List.flatMap_congr fun c hc => ?_).trans (List.flatMap_singleton' name)
    exact escape_of_isKeyPart (h.part c hc)
  have hspells : Spells (Json.quote (.ofList name)) (.text (some (.ofList name))) :=
    Json.Token.spells_print (t := .text (some (.ofList name))) rfl fun _ h => by cases h
  rwa [Json.quote, String.toList_ofList, hplain] at hspells

/-- Quotes are put around the keys that have none, and around nothing else. -/
lemma quoteKeys_spaced {ts : List Json.Token} {us : List (List Char)} (hb : Bared ts us)
    (hs : Spaced us s) (hts : ts.IsChain Json.Token.Meets) (hkept : ∀ w ∈ us, Kept w) :
    ∃ ws, List.Forall₂ Spells ws ts ∧ Spaced ws (quoteKeysFrom 0 s) := by
  have hblanks {g : List Char} (hg : Blanks g) (t : List Char) :
      quoteKeysFrom 0 (g ++ t) = g ++ quoteKeysFrom 0 t :=
    quoteKeys_of_not_mem ⟨fun hmem => (by cases hg _ hmem), fun hmem => (by cases hg _ hmem)⟩ t
  induction hb generalizing s with
  | nil =>
    cases hs with
    | last hg =>
      rw [← List.append_nil s, hblanks hg, quoteKeysFrom, List.append_nil]
      exact ⟨[], .nil, .last hg⟩
  | @word t ts w us hw hb ih =>
    obtain ⟨-, hts⟩ := List.isChain_cons.1 hts
    cases hs with
    | @word g _ s _ hg hs =>
      obtain ⟨ws, hws, hspaced⟩ := ih hs hts fun v hv => hkept v (by simp [hv])
      rw [hblanks hg, (hkept w (by simp)).quoteKeys fun _ => hb.bareKey? hs hts]
      exact ⟨w :: ws, .cons hw hws, .word hg hspaced⟩
  | @key t ts mark name us hmark ht hname hb ih =>
    cases hs with
    | @word g _ _ _ hg hs =>
      cases hs with
      | @word g₁ _ _ _ hg₁ hs =>
        cases hs with
        | @word g₂ _ s _ hg₂ hs =>
          obtain ⟨ws, hws, hspaced⟩ := ih hs (List.isChain_cons.1 (List.isChain_cons.1
            (List.isChain_cons.1 hts).2).2).2 fun v hv => hkept v (by simp [hv])
          obtain ⟨c, rfl, hc⟩ : ∃ c, mark = [c] ∧ (c = '\x7b' ∨ c = ',') := by
            rcases eq_of_opens hmark ht with rfl | rfl
            · exact ⟨_, rfl, .inl rfl⟩
            · exact ⟨_, rfl, .inr rfl⟩
          rw [hblanks hg, List.singleton_append, List.singleton_append,
            quoteKeys_key hc (allBlank_of_blanks hg₁) hname (allBlank_of_blanks hg₂)]
          refine ⟨[c] :: ('"' :: (name ++ ['"'])) :: [':'] :: ws,
            .cons hmark (.cons (spells_key hname) (.cons (spells_mark rfl) hws)), ?_⟩
          have hspaced' : Spaced ([c] :: ('"' :: (name ++ ['"'])) :: [':'] :: ws)
              (g ++ ([c] ++ (g₁ ++ (('"' :: (name ++ ['"'])) ++ ([] ++ ([':'] ++
                quoteKeysFrom 0 s)))))) :=
            .word hg (.word hg₁ (.word (by simp [Blanks]) hspaced))
          simpa using hspaced'

end

end Estate.Script
