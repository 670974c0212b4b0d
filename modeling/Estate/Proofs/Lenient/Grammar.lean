import Estate.Mapping.Lenient
import Estate.Proofs.Json.Spelling

/-!
Texts of JSON words with comments between them and commas behind the last parts of arrays and
objects, and what the two passes make of them.
-/

namespace Estate.Lenient

open Json

/-- Characters among which no block comment ends. -/
def Unclosed (body : List Char) : Prop := ¬ ['*', '/'] <:+: body

/-- What may stand where blanks may: blanks and complete comments. -/
inductive Filler : List Char → Prop where
  | nil : Filler []
  | blank {c : Char} {f : List Char} (hc : isGap c) (hf : Filler f) : Filler (c :: f)
  | line {body f : List Char} (hbody : '\n' ∉ body) (hf : Filler f) :
    Filler ('/' :: '/' :: (body ++ '\n' :: f))
  | block {body f : List Char} (hbody : Unclosed body) (hf : Filler f) :
    Filler ('/' :: '*' :: (body ++ '*' :: '/' :: f))

/-- The end of a text may end a line comment. -/
inductive Ending : List Char → Prop where
  | nil : Ending []
  | line {body : List Char} (hbody : '\n' ∉ body) : Ending ('/' :: '/' :: body)

/-- The end of a text may end any comment. -/
inductive AbruptEnding : List Char → Prop where
  | ending {e : List Char} (h : Ending e) : AbruptEnding e
  | block {body : List Char} (hbody : Unclosed body) : AbruptEnding ('/' :: '*' :: body)

/-- Characters with block comments among them. -/
inductive Interrupted : List Char → List Char → Prop where
  | nil : Interrupted [] []
  | char (c : Char) {w t : List Char} (h : Interrupted w t) : Interrupted (c :: w) (c :: t)
  | block {body w t : List Char} (hbody : Unclosed body) (h : Interrupted w t) :
    Interrupted w ('/' :: '*' :: (body ++ '*' :: '/' :: t))

/-- A word as it is, or a number or keyword with block comments in it. -/
def Joined (w t : List Char) : Prop := w = t ∨ Bare w ∧ Interrupted w t

/-- A text of words that stand in it in such a way, with fillers around them, up to such an end. -/
inductive Laid (stands : List Char → List Char → Prop) (ending : List Char → Prop) :
    List (List Char) → List Char → Prop where
  | last {f e : List Char} (hf : Filler f) (he : ending e) : Laid stands ending [] (f ++ e)
  | word {f w v t : List Char} {ws : List (List Char)} (hf : Filler f) (hv : stands w v)
    (ht : Laid stands ending ws t) : Laid stands ending (w :: ws) (f ++ (v ++ t))

/-- Words with single commas more before some of the closing brackets, where the word before lets
them be. The first words stand behind `before`. -/
inductive Trailing (allows : List Char → Prop) :
    List Char → List (List Char) → List (List Char) → Prop where
  | nil {before : List Char} : Trailing allows before [] []
  | keep {before w : List Char} {ws vs : List (List Char)} (h : Trailing allows w ws vs) :
    Trailing allows before (w :: ws) (w :: vs)
  | comma {before w : List Char} {ws vs : List (List Char)} (hb : allows before)
    (hw : IsCloser w) (h : Trailing allows w ws vs) :
    Trailing allows before (w :: ws) ([','] :: w :: vs)

/-- The word ends an element or a member. -/
def EndsPart (w : List Char) : Prop := w ∉ [[], [','], [':'], ['['], ['{']]

/-- The word ends an element or a member, or opens an array or object. -/
def EndsPartOrOpens (w : List Char) : Prop := w ∉ [[], [','], [':']]

/-- The words with comments where blanks may stand and with commas behind last elements and
members. -/
def Tidy (ws : List (List Char)) (t : List Char) : Prop :=
  ∃ vs, Trailing EndsPart [] ws vs ∧ Laid Eq Ending vs t

/-- The words with comments where blanks may stand and within numbers and keywords, a block comment
at the end of the text maybe not complete, and with commas behind last elements and members and
alone between brackets. -/
def Loose (ws : List (List Char)) (t : List Char) : Prop :=
  ∃ vs, Trailing EndsPartOrOpens [] ws vs ∧ Laid Joined AbruptEnding vs t

lemma Trailing.refl {allows : List Char → Prop} {before : List Char} (ws : List (List Char)) :
    Trailing allows before ws ws := by
  induction ws generalizing before with
  | nil => exact .nil
  | cons w ws ih => exact .keep ih

lemma Trailing.mono {p q : List Char → Prop} (h : ∀ w, p w → q w) {before : List Char}
    {ws vs : List (List Char)} (ht : Trailing p before ws vs) : Trailing q before ws vs := by
  induction ht with
  | nil => exact .nil
  | keep _ ih => exact .keep ih
  | comma hb hw _ ih => exact .comma (h _ hb) hw ih

lemma Laid.mono {ps qs : List Char → List Char → Prop} {pe qe : List Char → Prop}
    (hs : ∀ w v, ps w v → qs w v) (he : ∀ e, pe e → qe e) {ws : List (List Char)} {t : List Char}
    (ht : Laid ps pe ws t) : Laid qs qe ws t := by
  induction ht with
  | last hf h => exact .last hf (he _ h)
  | word hf hv _ ih => exact .word hf (hs _ _ hv) ih

lemma Tidy.loose {ws : List (List Char)} {t : List Char} (h : Tidy ws t) : Loose ws t := by
  obtain ⟨vs, htrailing, hlaid⟩ := h
  refine ⟨vs, htrailing.mono fun w hw => ?_, hlaid.mono (fun _ _ h => .inl h) fun _ h => .ending h⟩
  simp only [EndsPart, EndsPartOrOpens, List.mem_cons, not_or] at hw ⊢
  exact ⟨hw.1, hw.2.1, hw.2.2.1, by simp⟩

/-! ### The first pass -/

lemma unclosed_cons {c : Char} {cs : List Char} (h : Unclosed (c :: cs)) : Unclosed cs :=
  fun hinside => h (hinside.trans (List.suffix_cons c cs).isInfix)

lemma unclosed_goes_on {c d : Char} {cs : List Char} (h : Unclosed (c :: d :: cs)) :
    (c == '*' && d == '/') = false := by
  rw [Bool.and_eq_false_iff, beq_eq_false_iff_ne, beq_eq_false_iff_ne, ← not_and_or]
  rintro ⟨rfl, rfl⟩
  exact h ⟨[], cs, rfl⟩

/-- A block comment is passed over, whatever stands in it. -/
lemma strip_block_from {before : Char} {body : List Char} (h : Unclosed (before :: body))
    (t : List Char) :
    stripFrom (.block before) (body ++ '*' :: '/' :: t) = stripFrom .outside t := by
  induction body generalizing before with
  | nil => simp [stripFrom]
  | cons c body ih =>
    rw [List.cons_append, stripFrom, unclosed_goes_on h]
    exact ih (unclosed_cons h)

lemma unclosed_null {body : List Char} (h : Unclosed body) : Unclosed ('\x00' :: body) := by
  intro hinside
  rcases List.infix_cons_iff.1 hinside with hstart | hinside
  · simp at hstart
  · exact h hinside

lemma strip_block {body : List Char} (h : Unclosed body) (t : List Char) :
    stripFrom .outside ('/' :: '*' :: (body ++ '*' :: '/' :: t)) = stripFrom .outside t := by
  rw [stripFrom]
  exact strip_block_from (unclosed_null h) t

lemma strip_unclosed {before : Char} {body : List Char} (h : Unclosed (before :: body)) :
    stripFrom (.block before) body = [] := by
  induction body generalizing before with
  | nil => simp [stripFrom]
  | cons c body ih =>
    rw [stripFrom, unclosed_goes_on h]
    exact ih (unclosed_cons h)

/-- A line comment is passed over, its line feed apart. -/
lemma strip_line {body : List Char} (h : '\n' ∉ body) (t : List Char) :
    stripFrom .line (body ++ '\n' :: t) = '\n' :: stripFrom .outside t := by
  induction body with
  | nil => simp [stripFrom]
  | cons c body ih =>
    obtain ⟨hc, hbody⟩ := not_or.1 (mt List.mem_cons.2 h)
    rw [List.cons_append, stripFrom, if_neg (by simpa using Ne.symm hc)]
    exact ih hbody

lemma strip_line_end {body : List Char} (h : '\n' ∉ body) : stripFrom .line body = [] := by
  induction body with
  | nil => simp [stripFrom]
  | cons c body ih =>
    obtain ⟨hc, hbody⟩ := not_or.1 (mt List.mem_cons.2 h)
    rw [stripFrom, if_neg (by simpa using Ne.symm hc)]
    exact ih hbody

lemma ne_slash_of_isGap {c : Char} (h : isGap c) : c ≠ '/' ∧ c ≠ '"' := by
  constructor <;> rintro rfl <;> cases h

/-- Fillers become blanks. -/
lemma strip_filler {f : List Char} (hf : Filler f) :
    ∃ g, Blanks g ∧ ∀ t, stripFrom .outside (f ++ t) = g ++ stripFrom .outside t := by
  induction hf with
  | nil => exact ⟨[], by simp [Blanks], fun _ => rfl⟩
  | @blank c f hc _ ih =>
    obtain ⟨g, hg, hstrip⟩ := ih
    obtain ⟨hslash, hquote⟩ := ne_slash_of_isGap hc
    refine ⟨c :: g, by simpa [Blanks, hc] using hg, fun t => ?_⟩
    rw [List.cons_append, stripFrom_plain hslash, beq_eq_false_iff_ne.2 hquote]
    simp [hstrip]
  | @line body f hbody _ ih =>
    obtain ⟨g, hg, hstrip⟩ := ih
    have hfeed : isGap '\n' := by decide
    refine ⟨'\n' :: g, by simpa [Blanks, hfeed] using hg, fun t => ?_⟩
    simp [stripFrom, strip_line hbody, hstrip]
  | @block body f hbody _ ih =>
    obtain ⟨g, hg, hstrip⟩ := ih
    refine ⟨g, hg, fun t => ?_⟩
    simp [strip_block hbody, hstrip]

lemma strip_ending {e : List Char} (h : AbruptEnding e) : stripFrom .outside e = [] := by
  cases h with
  | ending h =>
    cases h with
    | nil => simp [stripFrom]
    | line hbody => rw [stripFrom, strip_line_end hbody]
  | block hbody => rw [stripFrom, strip_unclosed (unclosed_null hbody)]

lemma ne_slash_of_isBare {c : Char} (h : isBare c) : c ≠ '/' ∧ c ≠ '"' := by
  constructor <;> rintro rfl <;> exact absurd h (by decide)

/-- The comments in a number or keyword leave nothing. -/
lemma strip_interrupted {w v : List Char} (h : Interrupted w v) (hw : ∀ c ∈ w, isBare c)
    (t : List Char) : stripFrom .outside (v ++ t) = w ++ stripFrom .outside t := by
  induction h with
  | nil => rfl
  | char c _ ih =>
    obtain ⟨hslash, hquote⟩ := ne_slash_of_isBare (hw c (by simp))
    rw [List.cons_append, stripFrom_plain hslash, beq_eq_false_iff_ne.2 hquote]
    simp [ih fun d hd => hw d (by simp [hd])]
  | block hbody _ ih => simp [strip_block hbody, ih hw]

lemma interrupted_self (w : List Char) : Interrupted w w := by
  induction w with
  | nil => exact .nil
  | cons c w ih => exact .char c ih

/-- String literals stay as they are. -/
lemma strip_quotable {body : List Char} (h : Quotable body) (t : List Char) :
    stripFrom .string (body ++ '"' :: t) = body ++ '"' :: stripFrom .outside t := by
  induction h with
  | nil => simp [stripFrom]
  | plain hq hb _ ih => simp [stripFrom, hq, hb, ih]
  | escaped c _ ih => simp [stripFrom, ih]

lemma strip_joined {w v : List Char} (hw : Word w) (hv : Joined w v) (t : List Char) :
    stripFrom .outside (v ++ t) = w ++ stripFrom .outside t := by
  rcases hv with rfl | ⟨hbare, hv⟩
  · cases hw with
    | mark h =>
      rcases mark_cases h with rfl | rfl | rfl | rfl | rfl | rfl <;> simp [stripFrom_plain]
    | bare h => exact strip_interrupted (interrupted_self w) h.2 t
    | literal h => simp [stripFrom_plain, strip_quotable h]
  · exact strip_interrupted hv hbare.2 t

/-- The first pass leaves the words with blanks around them. -/
lemma strip_laid {ws : List (List Char)} {t : List Char} (ht : Laid Joined AbruptEnding ws t)
    (hw : ∀ w ∈ ws, Word w) : Spaced ws (stripFrom .outside t) := by
  induction ht with
  | last hf he =>
    obtain ⟨g, hg, hstrip⟩ := strip_filler hf
    rw [hstrip, strip_ending he, List.append_nil]
    exact .last hg
  | word hf hv _ ih =>
    obtain ⟨g, hg, hstrip⟩ := strip_filler hf
    rw [hstrip, strip_joined (hw _ (by simp)) hv]
    exact .word hg (ih fun u hu => hw u (by simp [hu]))

/-! ### The second pass -/

lemma drop_comma (cs : List Char) : dropFrom .outside (',' :: cs) =
    if closes cs then dropFrom .outside cs else ',' :: dropFrom .outside cs := by
  rw [dropFrom]
  · simp
  · intro h
    cases h
  · intro h
    cases h

lemma drop_quote (cs : List Char) :
    dropFrom .outside ('"' :: cs) = '"' :: dropFrom .string cs := by
  rw [dropFrom]
  · simp
  · intro h
    cases h
  · intro h
    cases h

lemma drop_plains {cs : List Char} (h : ∀ c ∈ cs, c ≠ '"' ∧ c ≠ ',') (t : List Char) :
    dropFrom .outside (cs ++ t) = cs ++ dropFrom .outside t := by
  induction cs with
  | nil => rfl
  | cons c cs ih =>
    obtain ⟨hq, hc⟩ := h c (by simp)
    rw [List.cons_append, dropFrom_plain hq hc, ih fun d hd => h d (by simp [hd]), List.cons_append]

lemma drop_blanks {g : List Char} (hg : Blanks g) (t : List Char) :
    dropFrom .outside (g ++ t) = g ++ dropFrom .outside t := by
  refine drop_plains (fun c hc => ?_) t
  have hgap : isGap c := hg c hc
  constructor <;> rintro rfl <;> cases hgap

/-- String literals stay as they are. -/
lemma drop_quotable {body : List Char} (h : Quotable body) (t : List Char) :
    dropFrom .string (body ++ '"' :: t) = body ++ '"' :: dropFrom .outside t := by
  induction h with
  | nil => simp [dropFrom]
  | plain hq hb _ ih => simp [dropFrom, hq, hb, ih]
  | escaped c _ ih => simp [dropFrom, ih]

/-- A word stays as it is, unless it is a comma before a closing bracket. -/
lemma drop_word {w : List Char} (hw : Word w) {t : List Char} (h : w = [','] → closes t = false) :
    dropFrom .outside (w ++ t) = w ++ dropFrom .outside t := by
  cases hw with
  | @mark c hc =>
    by_cases hcomma : c = ','
    · subst hcomma
      simp [drop_comma, h rfl]
    · refine drop_plains (fun d hd => ?_) t
      rw [List.mem_singleton.1 hd]
      refine ⟨?_, hcomma⟩
      rintro rfl
      cases hc
  | bare hb =>
    refine drop_plains (fun c hc => ?_) t
    have hbare : isBare c := hb.2 c hc
    constructor <;> rintro rfl <;> exact absurd hbare (by decide)
  | literal hb => simp [drop_quote, drop_quotable hb]

/-! ### Closing brackets ahead -/

lemma isBlank_of_isGap {c : Char} (h : isGap c) : Text.isBlank c := by
  simp only [isGap, Bool.or_eq_true, beq_iff_eq] at h
  rcases h with ((rfl | rfl) | rfl) | rfl <;> decide

lemma closes_blanks {g : List Char} (hg : Blanks g) (t : List Char) :
    closes (g ++ t) = closes t := by
  unfold closes Text.trimStart
  rw [List.dropWhile_append_of_pos fun c hc => isBlank_of_isGap (hg c hc)]

lemma toNat_lt_of_isBare {c : Char} (h : isBare c) : c.toNat < 128 := by
  have hlt : ∀ d : Char, d.val.toNat < 128 → c ≤ d → c.toNat < 128 := fun d hd hcd =>
    Nat.lt_of_le_of_lt (UInt32.le_iff_toNat_le.1 (Char.le_def.1 hcd)) hd
  simp only [isBare, isNumberChar, Text.isAsciiDigit, Bool.or_eq_true, Bool.and_eq_true,
    decide_eq_true_eq, beq_iff_eq] at h
  rcases h with (((((h | rfl) | rfl) | rfl) | rfl) | rfl) | h
  · exact hlt '9' (by decide) h.2
  all_goals first | decide | exact hlt 'z' (by decide) h.2

lemma not_isBlank_of_isBare {c : Char} (h : isBare c) : Text.isBlank c = false := by
  have hall : ∀ n < 128, isBare (.ofNat n) → Text.isBlank (.ofNat n) = false := by decide
  have hc := hall c.toNat (toNat_lt_of_isBare h)
  rw [Char.ofNat_toNat] at hc
  exact hc h

/-- A closing bracket is ahead of words if one of these is the first of them. -/
lemma closes_word {w : List Char} (hw : Word w) (t : List Char) :
    closes (w ++ t) = true ↔ IsCloser w := by
  cases hw with
  | mark h =>
    rcases mark_cases h with rfl | rfl | rfl | rfl | rfl | rfl <;>
      simp [closes, Text.trimStart, Text.isBlank, IsCloser]
  | bare h =>
    cases w with
    | nil => exact absurd rfl h.1
    | cons c w =>
      have hc : isBare c := h.2 c (by simp)
      constructor
      · intro hclose
        have hhead : closes (c :: (w ++ t)) = true := hclose
        rw [closes, Text.trimStart, List.dropWhile_cons_of_neg (by simp [not_isBlank_of_isBare hc])]
          at hhead
        split at hhead
        · next heq =>
          cases heq
          exact absurd hc (by decide)
        · next heq =>
          cases heq
          exact absurd hc (by decide)
        · cases hhead
      · rintro (hw | hw) <;> (cases hw; exact absurd hc (by decide))
  | literal h => simp [closes, Text.trimStart, Text.isBlank, IsCloser]

lemma closes_ahead {ws : List (List Char)} {s : List Char} (hs : Spaced ws s)
    (hw : ∀ w ∈ ws.head?, ∀ t, closes (w ++ t) = true ↔ IsCloser w) :
    closes s = true ↔ ∃ w ∈ ws.head?, IsCloser w := by
  cases hs with
  | last hg =>
    have hnone : closes [] = false := rfl
    rw [← List.append_nil s, closes_blanks hg, hnone]
    simp
  | @word g w s ws hg _ =>
    rw [closes_blanks hg, hw w rfl]
    simp

lemma closes_spaced {ws : List (List Char)} {s : List Char} (hs : Spaced ws s)
    (hw : ∀ w ∈ ws, Word w) : closes s = true ↔ ∃ w ∈ ws.head?, IsCloser w :=
  closes_ahead hs fun w h => closes_word (hw w (List.mem_of_mem_head? h))

section

variable {allows : List Char → Prop} {before : List Char} {ws vs : List (List Char)}

lemma Trailing.subset (h : Trailing allows before ws vs) : ws ⊆ vs := by
  induction h with
  | nil => exact List.Subset.refl []
  | keep _ ih => exact List.cons_subset_cons _ ih
  | comma _ _ _ ih => exact List.subset_cons_of_subset _ (List.cons_subset_cons _ ih)

lemma Trailing.mem_or (h : Trailing allows before ws vs) {v : List Char} (hv : v ∈ vs) :
    v ∈ ws ∨ v = [','] := by
  induction h with
  | nil => exact .inl hv
  | keep _ ih =>
    rcases List.mem_cons.1 hv with rfl | hv
    · exact .inl (List.mem_cons_self ..)
    · exact (ih hv).imp_left (List.mem_cons_of_mem _)
  | comma _ _ _ ih =>
    rcases List.mem_cons.1 hv with rfl | hv
    · exact .inr rfl
    · rcases List.mem_cons.1 hv with rfl | hv
      · exact .inl (List.mem_cons_self ..)
      · exact (ih hv).imp_left (List.mem_cons_of_mem _)

lemma Trailing.word (h : Trailing allows before ws vs) (hw : ∀ w ∈ ws, Word w) :
    ∀ v ∈ vs, Word v := by
  intro v hv
  rcases h.mem_or hv with hv | rfl
  · exact hw v hv
  · exact .mark (by decide)

lemma Trailing.head_closer (h : Trailing allows before ws vs) {v : List Char} (hv : v ∈ vs.head?)
    (hc : IsCloser v) : v ∈ ws.head? := by
  cases h with
  | nil => exact hv
  | keep _ => exact hv
  | comma _ _ _ =>
    cases hv
    rcases hc with hc | hc <;> cases hc

/-- Commas are added only before closing brackets. -/
lemma Trailing.kept {w : List Char} (h : Trailing allows before (w :: ws) vs) (hw : ¬ IsCloser w) :
    ∃ us, vs = w :: us ∧ Trailing allows w ws us := by
  cases h with
  | keep h => exact ⟨_, rfl, h⟩
  | comma _ hclose _ => exact absurd hclose hw

/-- The second pass takes out the added commas and no others. -/
lemma drop_spaced (ht : Trailing allows before ws vs) {s : List Char} (hs : Spaced vs s)
    (hw : ∀ w ∈ ws, Word w) (hc : ws.IsChain Behind) : Spaced ws (dropFrom .outside s) := by
  have hwv : ∀ v ∈ vs, Word v := ht.word hw
  induction ht generalizing s with
  | nil =>
    cases hs with
    | last hg =>
      rw [← List.append_nil s, drop_blanks hg, dropFrom, List.append_nil]
      exact .last hg
  | @keep before w ws vs ht ih =>
    obtain ⟨hfull, hc⟩ := List.isChain_cons.1 hc
    cases hs with
    | @word g _ s _ hg hs =>
      have hkept : w = [','] → closes s = false := by
        rintro rfl
        rw [Bool.eq_false_iff, ne_eq, closes_spaced hs fun v hv => hwv v (by simp [hv])]
        rintro ⟨v, hv, hclose⟩
        exact (hfull v (ht.head_closer hv hclose)).full rfl hclose
      have hrest : Spaced ws (dropFrom .outside s) :=
        ih hs (fun v hv => hw v (by simp [hv])) hc fun v hv => hwv v (by simp [hv])
      rw [drop_blanks hg, drop_word (hw w (by simp)) hkept]
      exact .word hg hrest
  | @comma before w ws vs _ hclose _ ih =>
    obtain ⟨-, hc⟩ := List.isChain_cons.1 hc
    cases hs with
    | @word g _ s _ hg hs =>
      have hdropped : closes s = true :=
        (closes_spaced hs fun v hv => hwv v (by simp [hv])).2 ⟨w, rfl, hclose⟩
      have hkept : ∀ t, w = [','] → closes t = false := by
        rintro t rfl
        rcases hclose with h | h <;> cases h
      rw [drop_blanks hg, List.singleton_append, drop_comma, if_pos hdropped]
      cases hs with
      | @word g' _ s _ hg' hs =>
        have hrest : Spaced ws (dropFrom .outside s) :=
          ih hs (fun v hv => hw v (by simp [hv])) hc fun v hv => hwv v (by simp [hv])
        have hblanks : Blanks (g ++ g') := fun c h => (List.mem_append.1 h).elim (hg c) (hg' c)
        rw [drop_blanks hg', drop_word (hw w (by simp)) (hkept s), ← List.append_assoc]
        exact .word hblanks hrest

end

/-- The two passes leave the words with blanks around them. -/
lemma clean_loose {ws : List (List Char)} {s : String} (h : Loose ws s.toList)
    (hw : ∀ w ∈ ws, Word w) (hc : ws.IsChain Behind) : Spaced ws (clean s).toList := by
  obtain ⟨vs, htrailing, hlaid⟩ := h
  rw [clean, String.toList_ofList]
  exact drop_spaced htrailing (strip_laid hlaid (htrailing.word hw)) hw hc

end Estate.Lenient
