import Estate.Proofs.Lenient.Grammar

/-!
The words that the scan finds in what the two passes leave of a text stand in the text itself, with
comments and commas between them.
-/

namespace Estate.Lenient

open Json

/-- The characters that are left by the two passes. -/
def cleaned (t : List Char) : List Char := dropFrom .outside (stripFrom .outside t)

/-! ### How a text goes on -/

/-- A text ends, maybe within a comment, or starts with a comment or a character outside of one. -/
inductive Front : List Char → Prop where
  | ending {e : List Char} (h : AbruptEnding e) : Front e
  | line {body rest : List Char} (h : '\n' ∉ body) : Front ('/' :: '/' :: (body ++ '\n' :: rest))
  | block {body rest : List Char} (h : Unclosed body) :
    Front ('/' :: '*' :: (body ++ '*' :: '/' :: rest))
  | char {c : Char} {rest : List Char}
    (h : stripFrom .outside (c :: rest) =
      c :: stripFrom (if c == '"' then .string else .outside) rest) : Front (c :: rest)

lemma split_feed (t : List Char) :
    '\n' ∉ t ∨ ∃ body rest, t = body ++ '\n' :: rest ∧ '\n' ∉ body := by
  by_cases h : '\n' ∈ t
  · obtain ⟨body, rest, rfl, hbody⟩ := List.eq_append_cons_of_mem h
    exact .inr ⟨body, rest, rfl, hbody⟩
  · exact .inl h

lemma split_block (t : List Char) :
    Unclosed t ∨ ∃ body rest, t = body ++ '*' :: '/' :: rest ∧ Unclosed body := by
  induction t with
  | nil => exact .inl (by unfold Unclosed; decide)
  | cons c t ih =>
    by_cases hstart : ['*', '/'] <+: c :: t
    · obtain ⟨rest, hrest⟩ := hstart
      exact .inr ⟨[], rest, hrest.symm, by unfold Unclosed; decide⟩
    · rcases ih with hopen | ⟨body, rest, rfl, hbody⟩
      · exact .inl fun h => (List.infix_cons_iff.1 h).elim hstart hopen
      · refine .inr ⟨c :: body, rest, rfl, fun h => ?_⟩
        rcases List.infix_cons_iff.1 h with h | h
        · exact hstart (h.trans ⟨'*' :: '/' :: rest, rfl⟩)
        · exact hbody h

lemma front (t : List Char) : Front t := by
  cases t with
  | nil => exact .ending (.ending .nil)
  | cons c cs =>
    by_cases hc : c = '/'
    · subst hc
      by_cases hline : ∃ t, cs = '/' :: t
      · obtain ⟨t, rfl⟩ := hline
        rcases split_feed t with h | ⟨body, rest, rfl, hbody⟩
        · exact .ending (.ending (.line h))
        · exact .line hbody
      · by_cases hblock : ∃ t, cs = '*' :: t
        · obtain ⟨t, rfl⟩ := hblock
          rcases split_block t with h | ⟨body, rest, rfl, hbody⟩
          · exact .ending (.block h)
          · exact .block hbody
        · refine .char ?_
          rw [stripFrom]
          · exact fun t _ h => hline ⟨t, h⟩
          · exact fun t _ h => hblock ⟨t, h⟩
    · exact .char (stripFrom_plain hc cs)

section

variable {body rest : List Char}

lemma cleaned_ending {e : List Char} (h : AbruptEnding e) : cleaned e = [] := by
  rw [cleaned, strip_ending h, dropFrom]

lemma cleaned_line (h : '\n' ∉ body) :
    cleaned ('/' :: '/' :: (body ++ '\n' :: rest)) = '\n' :: cleaned rest := by
  rw [cleaned, stripFrom, strip_line h, dropFrom_plain (by decide) (by decide), cleaned]

lemma cleaned_block (h : Unclosed body) :
    cleaned ('/' :: '*' :: (body ++ '*' :: '/' :: rest)) = cleaned rest := by
  rw [cleaned, strip_block h, cleaned]

lemma cleaned_char {c : Char} (h : stripFrom .outside (c :: rest) =
      c :: stripFrom (if c == '"' then .string else .outside) rest) (hq : c ≠ '"') (hc : c ≠ ',') :
    cleaned (c :: rest) = c :: cleaned rest := by
  rw [cleaned, h, beq_eq_false_iff_ne.2 hq, dropFrom_plain hq hc]
  rfl

lemma cleaned_comma (rest : List Char) : cleaned (',' :: rest) =
    if closes (stripFrom .outside rest) then cleaned rest else ',' :: cleaned rest := by
  rw [cleaned, stripFrom_plain (by decide)]
  exact drop_comma _

lemma cleaned_literal (h : Quotable body) (rest : List Char) :
    cleaned ('"' :: (body ++ '"' :: rest)) = '"' :: (body ++ '"' :: cleaned rest) := by
  have hstrip : stripFrom .outside ('"' :: (body ++ '"' :: rest)) =
      '"' :: (body ++ '"' :: stripFrom .outside rest) := by
    rw [stripFrom_plain (by decide)]
    simp [strip_quotable h]
  rw [cleaned, hstrip, drop_quote, drop_quotable h, cleaned]

end

/-! ### String literals that do not end -/

/-- Characters behind a quote of which none closes the literal. -/
inductive Unfinished : List Char → Prop where
  | nil : Unfinished []
  | backslash : Unfinished ['\\']
  | plain {c : Char} {cs : List Char} (hq : c ≠ '"') (hb : c ≠ '\\') (h : Unfinished cs) :
    Unfinished (c :: cs)
  | escaped (c : Char) {cs : List Char} (h : Unfinished cs) : Unfinished ('\\' :: c :: cs)

lemma split_literal (t : List Char) :
    Unfinished t ∨ ∃ body rest, t = body ++ '"' :: rest ∧ Quotable body := by
  match t with
  | [] => exact .inl .nil
  | c :: cs =>
    by_cases hq : c = '"'
    · subst hq
      exact .inr ⟨[], cs, rfl, .nil⟩
    · by_cases hb : c = '\\'
      · subst hb
        match cs with
        | [] => exact .inl .backslash
        | d :: ds =>
          rcases split_literal ds with h | ⟨body, rest, rfl, hbody⟩
          · exact .inl (.escaped d h)
          · exact .inr ⟨'\\' :: d :: body, rest, rfl, .escaped d hbody⟩
      · rcases split_literal cs with h | ⟨body, rest, rfl, hbody⟩
        · exact .inl (.plain hq hb h)
        · exact .inr ⟨c :: body, rest, rfl, .plain hq hb hbody⟩

lemma strip_unfinished {t : List Char} (h : Unfinished t) : stripFrom .string t = t := by
  induction h with
  | nil => simp [stripFrom]
  | backslash => simp [stripFrom]
  | plain hq hb _ ih => simp [stripFrom, hq, hb, ih]
  | escaped c _ ih => simp [stripFrom, ih]

lemma drop_unfinished {t : List Char} (h : Unfinished t) : dropFrom .string t = t := by
  induction h with
  | nil => simp [dropFrom]
  | backslash => simp [dropFrom]
  | plain hq hb _ ih => simp [dropFrom, hq, hb, ih]
  | escaped c _ ih => simp [dropFrom, ih]

lemma scanOn_unfinished {t : List Char} (h : Unfinished t) {s : Scan} (hs : s.Inside) :
    scanOn s t = none := by
  induction h generalizing s with
  | nil =>
    obtain ⟨ts, m⟩ := s
    cases m <;> first | rfl | cases hs
  | backslash =>
    obtain ⟨ts, m⟩ := s
    cases m <;> first | rfl | cases hs
  | @plain c cs hq hb _ ih =>
    rw [scanOn_cons]
    cases hstep : s.step c with
    | none => rfl
    | some s' => exact ih (Scan.step_plain hs hq hb hstep).1
  | @escaped c cs _ ih =>
    rw [scanOn_cons]
    cases hstep : s.step '\\' with
    | none => rfl
    | some s' =>
      rw [Option.bind_some, scanOn_cons]
      cases hstep' : s'.step c with
      | none => rfl
      | some s'' => exact ih (Scan.step_backslash hs hstep hstep').1

/-! ### Numbers and keywords -/

section

variable {kind : Char → Bool} {mode : List Char → Json.Mode}

lemma head_drop_of_closes {s : List Char} (h : closes s = true) :
    ∀ c ∈ (dropFrom .outside s).head?, isBare c = false := by
  cases s with
  | nil => cases h
  | cons d s =>
    have hd : d ≠ '"' ∧ d ≠ ',' ∧ isBare d = false := by
      cases hblank : Text.isBlank d with
      | true =>
        refine ⟨?_, ?_, ?_⟩
        · rintro rfl
          cases hblank
        · rintro rfl
          cases hblank
        · cases hbare : isBare d with
          | false => rfl
          | true =>
            rw [not_isBlank_of_isBare hbare] at hblank
            cases hblank
      | false =>
        rw [closes, Text.trimStart, List.dropWhile_cons_of_neg (by simp [hblank])] at h
        split at h
        · next heq => cases heq; decide
        · next heq => cases heq; decide
        · cases h
    rw [dropFrom_plain hd.1 hd.2.1]
    intro c hc
    cases hc
    exact hd.2.2

/-- A run of characters, with the block comments in it, up to where it ends. -/
lemma split_run (hr : Run kind mode) (t : List Char) :
    ∃ w v rest, t = v ++ rest ∧ Interrupted w v ∧ (∀ c ∈ w, kind c) ∧
      cleaned t = w ++ cleaned rest ∧ ∀ c ∈ (cleaned rest).head?, kind c = false := by
  induction hn : t.length using Nat.strongRecOn generalizing t with
  | ind n ih =>
    subst hn
    have hstop : (∀ c ∈ (cleaned t).head?, isBare c = false ∨ kind c = false) →
        ∃ w v rest, t = v ++ rest ∧ Interrupted w v ∧ (∀ c ∈ w, kind c) ∧
          cleaned t = w ++ cleaned rest ∧ ∀ c ∈ (cleaned rest).head?, kind c = false :=
      fun h => ⟨[], [], t, rfl, .nil, by simp, rfl, fun c hc => (h c hc).elim hr.not_kind id⟩
    cases front t with
    | ending he => exact hstop (by simp [cleaned_ending he])
    | line hbody =>
      refine hstop fun c hc => ?_
      rw [cleaned_line hbody] at hc
      cases hc
      exact .inl (by decide)
    | @block body rest hbody =>
      have hlt : rest.length < ('/' :: '*' :: (body ++ '*' :: '/' :: rest)).length := by
        simp only [List.length_cons, List.length_append]
        omega
      obtain ⟨w, v, rest', hrest, hv, hw, hclean, hhead⟩ := ih rest.length hlt rest rfl
      refine ⟨w, '/' :: '*' :: (body ++ '*' :: '/' :: v), rest', ?_, .block hbody hv, hw, ?_, hhead⟩
      · rw [hrest]
        simp
      · rw [cleaned_block hbody, hclean]
    | @char c rest hstrip =>
      by_cases hcomma : c = ','
      · subst hcomma
        refine hstop fun d hd => .inl ?_
        rw [cleaned_comma] at hd
        split at hd
        · next hclose => exact head_drop_of_closes hclose d hd
        · cases hd
          decide
      · by_cases hquote : c = '"'
        · subst hquote
          refine hstop fun d hd => .inl ?_
          rw [cleaned, stripFrom_plain (by decide), drop_quote] at hd
          cases hd
          decide
        · have hcleaned : cleaned (c :: rest) = c :: cleaned rest :=
            cleaned_char hstrip hquote hcomma
          cases hk : kind c with
          | false =>
            refine hstop fun d hd => .inr ?_
            rw [hcleaned] at hd
            cases hd
            exact hk
          | true =>
            obtain ⟨w, v, rest', hrest, hv, hw, hclean, hhead⟩ := ih rest.length (by simp) rest rfl
            refine ⟨c :: w, c :: v, rest', by rw [hrest]; rfl, .char c hv, ?_, ?_, hhead⟩
            · simpa [hk] using hw
            · rw [hcleaned, hclean, List.cons_append]

/-- A number or keyword is found in the text, maybe with block comments in it. -/
lemma found_run (hr : Run kind mode) {c : Char} {acc : List Token} {t : List Char} {last : Scan}
    (hc : isBare c) (hstart : Scan.step ⟨acc, .gap⟩ c = some ⟨acc, mode [c]⟩)
    (h : scanOn ⟨acc, .gap⟩ (c :: cleaned t) = some last) :
    ∃ w v rest tok, t = v ++ rest ∧ Joined (c :: w) (c :: v) ∧ Spells (c :: w) tok ∧
      scanOn ⟨tok :: acc, .gap⟩ (cleaned rest) = some last := by
  obtain ⟨w, v, rest, rfl, hv, hw, hclean, hhead⟩ := split_run hr t
  have hbare : Bare (c :: w) := by
    refine ⟨by simp, fun d hd => ?_⟩
    rcases List.mem_cons.1 hd with rfl | hd
    · exact hc
    · exact hr.bare d (hw d hd)
  have hread : ∀ cs, scanOn ⟨acc, .gap⟩ (c :: (w ++ cs)) =
      scanOn ⟨acc, mode (w.reverse ++ [c])⟩ cs := by
    intro cs
    rw [scanOn_cons, hstart, Option.bind_some, scanOn, List.foldlM_append, hr.foldlM hw]
    rfl
  rw [hclean, hread, scanOn_settle fun d hd => hr.stop _ _ d (hhead d hd)] at h
  obtain ⟨s, hs, h⟩ := Option.bind_eq_some_iff.1 h
  obtain ⟨tok, htok, rfl⟩ := hr.settle _ _ _ hs
  have hword : scanOn ⟨acc, .gap⟩ (c :: w) = some ⟨tok :: acc, .gap⟩ := by
    rw [← List.append_nil w, hread]
    exact hs
  exact ⟨w, v, rest, tok, rfl, .inr ⟨hbare, .char c hv⟩, .of_scanOn (.bare hbare htok) hword, h⟩

end

/-! ### Words of the text -/

lemma filler_append {f g : List Char} (hf : Filler f) (hg : Filler g) : Filler (f ++ g) := by
  induction hf with
  | nil => exact hg
  | blank hc _ ih => exact .blank hc ih
  | line hbody _ ih =>
    rw [List.cons_append, List.cons_append, List.append_assoc, List.cons_append]
    exact .line hbody ih
  | block hbody _ ih =>
    rw [List.cons_append, List.cons_append, List.append_assoc, List.cons_append, List.cons_append]
    exact .block hbody ih

/-- The tokens that the scan finds in what is left of the text are spelled by words that stand in
it, with fillers around them and commas before closing brackets. -/
def Found (t : List Char) (acc : List Token) (last : Scan) : Prop :=
  ∃ ws vs toks, List.Forall₂ Spells ws toks ∧ Trailing (fun _ => True) [] ws vs ∧
    Laid Joined AbruptEnding vs t ∧ last = ⟨toks.reverse ++ acc, .gap⟩

lemma Trailing.anywhere {before : List Char} {ws vs : List (List Char)}
    (h : Trailing (fun _ => True) before ws vs) (other : List Char) :
    Trailing (fun _ => True) other ws vs := by
  cases h with
  | nil => exact .nil
  | keep h => exact .keep h
  | comma _ hw h => exact .comma trivial hw h

section

variable {t : List Char} {acc : List Token} {last : Scan}

lemma Found.filler {f : List Char} (hf : Filler f) (h : Found t acc last) :
    Found (f ++ t) acc last := by
  obtain ⟨ws, vs, toks, hws, htrailing, hlaid, hlast⟩ := h
  refine ⟨ws, vs, toks, hws, htrailing, ?_, hlast⟩
  cases hlaid with
  | last hg he =>
    rw [← List.append_assoc]
    exact .last (filler_append hf hg) he
  | word hg hv ht =>
    rw [← List.append_assoc]
    exact .word (filler_append hf hg) hv ht

lemma Found.word {w v : List Char} {tok : Token} (hw : Spells w tok) (hv : Joined w v)
    (h : Found t (tok :: acc) last) : Found (v ++ t) acc last := by
  obtain ⟨ws, vs, toks, hws, htrailing, hlaid, rfl⟩ := h
  refine ⟨w :: ws, w :: vs, tok :: toks, .cons hw hws, .keep (htrailing.anywhere w),
    .word .nil hv hlaid, ?_⟩
  simp

lemma Found.comma (hclose : closes (stripFrom .outside t) = true) (h : Found t acc last) :
    Found (',' :: t) acc last := by
  obtain ⟨ws, vs, toks, hws, htrailing, hlaid, hlast⟩ := h
  have hwords : ∀ v ∈ vs, Word v :=
    htrailing.word (word_of_shaped (hws.imp fun _ _ h => h.shape))
  obtain ⟨v, hv, hcloser⟩ := (closes_spaced (strip_laid hlaid hwords) hwords).1 hclose
  refine ⟨ws, [','] :: vs, toks, hws, ?_, .word .nil (.inl rfl) hlaid, hlast⟩
  cases htrailing with
  | nil => cases hv
  | keep h =>
    cases hv
    exact .comma trivial hcloser h
  | comma _ _ _ =>
    cases hv
    rcases hcloser with h | h <;> cases h

lemma Found.mark {c : Char} (tok : Token) (hc : tok.mark? = some c)
    (ih : ∀ {acc last}, scanOn ⟨acc, .gap⟩ (cleaned t) = some last → Found t acc last)
    (h : scanOn ⟨acc, .gap⟩ (c :: cleaned t) = some last) : Found (c :: t) acc last := by
  have hstep : ∀ acc, Scan.step ⟨acc, .gap⟩ c = some ⟨tok :: acc, .gap⟩ := by
    intro acc
    cases tok <;> cases hc <;> rfl
  rw [scanOn_cons, hstep, Option.bind_some] at h
  have hspells : Spells [c] tok := by
    refine .of_scanOn (.mark hc) (show scanOn ⟨[], .gap⟩ [c] = some ⟨[tok], .gap⟩ from ?_)
    rw [scanOn_cons, hstep]
    rfl
  exact .word hspells (.inl rfl) (ih h)

lemma Found.literal
    (ih : ∀ {rest acc last}, rest.length < ('"' :: t).length →
      scanOn ⟨acc, .gap⟩ (cleaned rest) = some last → Found rest acc last)
    (h : scanOn ⟨acc, .gap⟩ (cleaned ('"' :: t)) = some last) : Found ('"' :: t) acc last := by
  rcases split_literal t with hopen | ⟨body, rest, rfl, hbody⟩
  · have hclean : cleaned ('"' :: t) = '"' :: t := by
      rw [cleaned, stripFrom_plain (by decide)]
      simp [strip_unfinished hopen, drop_quote, drop_unfinished hopen]
    have hinside : Scan.Inside ⟨acc, .text []⟩ := trivial
    have hnone : scanOn ⟨acc, .text []⟩ t = none := scanOn_unfinished hopen hinside
    have hquote : Scan.step ⟨acc, .gap⟩ '"' = some ⟨acc, .text []⟩ := rfl
    rw [hclean, scanOn_cons, hquote, Option.bind_some, hnone] at h
    cases h
  · have hword : Word ('"' :: (body ++ ['"'])) := .literal hbody
    have hsplit : '"' :: (body ++ '"' :: cleaned rest) =
        '"' :: (body ++ ['"']) ++ cleaned rest := by
      simp
    have hbare : ¬ Bare ('"' :: (body ++ ['"'])) := fun hb =>
      absurd (hb.2 '"' (by simp)) (by decide)
    rw [cleaned_literal hbody, hsplit, scanOn_word hword fun hb => absurd hb hbare] at h
    obtain ⟨s, hs, h⟩ := Option.bind_eq_some_iff.1 h
    have hquote : Scan.step ⟨acc, .gap⟩ '"' = some ⟨acc, .text []⟩ := rfl
    have hinside : Scan.Inside ⟨acc, .text []⟩ := trivial
    have hs' := hs
    rw [scanOn_cons, hquote, Option.bind_some] at hs'
    obtain ⟨x, rfl⟩ := scanOn_literal hbody hinside hs'
    have hlt : rest.length < ('"' :: (body ++ '"' :: rest)).length := by
      simp only [List.length_cons, List.length_append]
      omega
    have hfound : Found rest (.text x :: acc) last := ih hlt h
    have hjoined := Found.word (.of_scanOn (.literal hbody) hs) (.inl rfl) hfound
    simpa using hjoined

lemma Found.run {kind : Char → Bool} {mode : List Char → Json.Mode} (hr : Run kind mode) {c : Char}
    (hc : isBare c) (hstart : Scan.step ⟨acc, .gap⟩ c = some ⟨acc, mode [c]⟩)
    (ih : ∀ {rest acc last}, rest.length < (c :: t).length →
      scanOn ⟨acc, .gap⟩ (cleaned rest) = some last → Found rest acc last)
    (h : scanOn ⟨acc, .gap⟩ (c :: cleaned t) = some last) : Found (c :: t) acc last := by
  obtain ⟨w, v, rest, tok, rfl, hv, hw, h⟩ := found_run hr hc hstart h
  have hlt : rest.length < (c :: (v ++ rest)).length := by
    simp only [List.length_cons, List.length_append]
    omega
  exact .word hw hv (ih hlt h)

/-- The first pass leaves a character that starts no comment. -/
lemma Found.char {c : Char}
    (hstrip : stripFrom .outside (c :: t) =
      c :: stripFrom (if c == '"' then .string else .outside) t)
    (ih : ∀ {rest acc last}, rest.length < (c :: t).length →
      scanOn ⟨acc, .gap⟩ (cleaned rest) = some last → Found rest acc last)
    (h : scanOn ⟨acc, .gap⟩ (cleaned (c :: t)) = some last) : Found (c :: t) acc last := by
  have htail : ∀ {acc last}, scanOn ⟨acc, .gap⟩ (cleaned t) = some last → Found t acc last :=
    fun h => ih (by simp) h
  by_cases hquote : c = '"'
  · subst hquote
    exact .literal ih h
  by_cases hcomma : c = ','
  · subst hcomma
    rw [cleaned_comma] at h
    split at h
    · next hclose => exact (htail h).comma hclose
    · exact .mark .comma rfl htail h
  rw [cleaned_char hstrip hquote hcomma] at h
  cases hgap : isGap c with
  | true =>
    rw [← List.singleton_append, scanOn_blanks (by simpa [Blanks] using hgap)] at h
    exact (htail h).filler (.blank hgap .nil)
  | false =>
    cases hmark : isMark c with
    | true =>
      rcases mark_cases hmark with rfl | rfl | rfl | rfl | rfl | rfl
      · exact .mark .openBrace rfl htail h
      · exact .mark .closeBrace rfl htail h
      · exact .mark .openBracket rfl htail h
      · exact .mark .closeBracket rfl htail h
      · exact .mark .colon rfl htail h
      · exact absurd rfl hcomma
    | false =>
      have hstart := Scan.start_other hgap hmark hquote ⟨acc, .gap⟩
      split at hstart
      · next hnumber => exact .run run_number (isBare_of_number_start hnumber) hstart ih h
      · split at hstart
        · next hkeyword =>
          have hbare : isBare c := by simp [isBare, hkeyword]
          exact .run run_keyword hbare hstart ih h
        · rw [scanOn_cons, Scan.step_of_gap rfl, hstart] at h
          cases h

end

lemma found_of_scanOn {t : List Char} {acc : List Token} {last : Scan}
    (h : scanOn ⟨acc, .gap⟩ (cleaned t) = some last) : Found t acc last := by
  induction hn : t.length using Nat.strongRecOn generalizing t acc last with
  | ind n ih =>
    subst hn
    cases front t with
    | ending he =>
      rw [cleaned_ending he] at h
      cases h
      exact ⟨[], [], [], .nil, .nil, .last .nil he, rfl⟩
    | @line body rest hbody =>
      have hlt : rest.length < ('/' :: '/' :: (body ++ '\n' :: rest)).length := by
        simp only [List.length_cons, List.length_append]
        omega
      rw [cleaned_line hbody, scanOn_cons] at h
      have hrest : Found rest acc last := ih rest.length hlt h rfl
      simpa using hrest.filler (.line hbody .nil)
    | @block body rest hbody =>
      have hlt : rest.length < ('/' :: '*' :: (body ++ '*' :: '/' :: rest)).length := by
        simp only [List.length_cons, List.length_append]
        omega
      rw [cleaned_block hbody] at h
      have hrest : Found rest acc last := ih rest.length hlt h rfl
      simpa using hrest.filler (.block hbody .nil)
    | char hstrip => exact .char hstrip (fun hlen h => ih _ hlen h rfl) h

end Estate.Lenient
