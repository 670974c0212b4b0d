import Estate.Proofs.Json.Accepted
import Estate.Proofs.Json.Meaning
import Estate.Proofs.Lenient.Grammar
import Estate.Proofs.Text.Cutting
import Estate.Script.Scan

/-!
Values written in the manner of scripts: keys may have no quotes, and commas may stand behind the
last parts of arrays and objects. Read as JSON such a text has the value that it writes, or none.
-/

namespace Estate.Script

open Json (Value Spells Spaced Bare Blanks isBare isGap isMark tokens? scanOn)
open Lenient (Trailing EndsPart)

/-- A key that needs no quotes. -/
inductive IsKey : List Char → Prop where
  | mk {c : Char} {w : List Char} (hc : isKeyStart c) (hw : ∀ d ∈ w, isKeyPart d) : IsKey (c :: w)

/-- The words write the tokens. A key, which stands behind an opening brace or a comma, may have no
quotes. -/
inductive Bared : List Json.Token → List (List Char) → Prop where
  | nil : Bared [] []
  | word {t : Json.Token} {ts : List Json.Token} {w : List Char} {ws : List (List Char)}
    (hw : Spells w t) (h : Bared ts ws) : Bared (t :: ts) (w :: ws)
  | key {t : Json.Token} {ts : List Json.Token} {mark name : List Char} {ws : List (List Char)}
    (hmark : Spells mark t) (ht : t = .openBrace ∨ t = .comma) (hname : IsKey name)
    (h : Bared ts ws) :
    Bared (t :: .text (some (.ofList name)) :: .colon :: ts) (mark :: name :: [':'] :: ws)

/-- The words write the value in the manner of scripts: some keys have no quotes, and commas stand
behind the last parts of some arrays and objects. -/
def Renders (v : Value) (vs : List (List Char)) : Prop :=
  ∃ us, Bared v.tokens us ∧ Trailing EndsPart [] us vs

lemma bared_of_spells {ts : List Json.Token} {ws : List (List Char)}
    (h : List.Forall₂ Spells ws ts) : Bared ts ws := by
  induction h with
  | nil => exact .nil
  | cons hw _ ih => exact .word hw ih

/-! ### Characters of keys -/

section

variable {name : List Char} {c : Char}

lemma isKeyPart_of_isKeyStart (h : isKeyStart c) : isKeyPart c := by
  simp only [isKeyStart, Bool.or_eq_true, beq_iff_eq] at h
  rcases h with (hletter | rfl) | rfl
  · have hlow : c.toNat < 128 := by
      rcases Bool.or_eq_true_iff.1 hletter with h | h
      · exact Nat.lt_of_le_of_lt (Text.toNat_between h).2 (by decide)
      · exact Nat.lt_of_le_of_lt (Text.toNat_between h).2 (by decide)
    simp [isKeyPart, Text.isWord, Text.isAscii, Text.isAsciiAlphanumeric, hlow, hletter]
  · decide
  · decide

lemma IsKey.part (h : IsKey name) : ∀ c ∈ name, isKeyPart c := by
  obtain ⟨hc, hw⟩ := h
  exact List.forall_mem_cons.2 ⟨isKeyPart_of_isKeyStart hc, hw⟩

lemma IsKey.ne_nil (h : IsKey name) : name ≠ [] := by
  obtain ⟨-, -⟩ := h
  simp

lemma not_isKeyPart_of_isMark (h : isMark c) : isKeyPart c = false := by
  rcases Json.mark_cases h with rfl | rfl | rfl | rfl | rfl | rfl <;> decide

lemma not_isBlank_of_isKeyPart (h : isKeyPart c) : Text.isBlank c = false := by
  rw [isKeyPart, Bool.or_eq_true, beq_iff_eq] at h
  rcases h with hword | rfl
  · exact Text.isBlank_of_isWord hword
  · decide

lemma not_isKeyPart_of_isBlank (h : Text.isBlank c) : isKeyPart c = false := by
  cases hpart : isKeyPart c with
  | false => rfl
  | true =>
    rw [not_isBlank_of_isKeyPart hpart] at h
    cases h

/-- What does not belong to a key does not start one. -/
lemma IsKey.head_ne (h : IsKey name) {d : Char} (hd : isKeyPart d = false) {w : List Char} :
    name ≠ d :: w := by
  rintro rfl
  have hpart := h.part d (by simp)
  rw [hd] at hpart
  cases hpart

lemma IsKey.not_closer (h : IsKey name) : ¬ Json.IsCloser name := by
  rintro (hclose | hclose)
  · exact h.head_ne (by decide) hclose
  · exact h.head_ne (by decide) hclose

end

/-! ### Reading word by word -/

section

variable {w s g : List Char} {t : Json.Token} {toks : List Json.Token}

lemma tokens?_blanks (hg : Blanks g) (s : List Char) : tokens? (g ++ s) = tokens? s := by
  rw [Json.tokens?_eq, Json.scanOn_blanks hg, Json.tokens?_eq]

lemma tokens?_over (acc : List Json.Token) (s : List Char) :
    (scanOn ⟨acc, .gap⟩ s).map (fun s => s.tokens.reverse) =
      (tokens? s).map (acc.reverse ++ ·) := by
  have hover : scanOn ⟨acc, .gap⟩ s = (scanOn ⟨[], .gap⟩ s).map fun s => s.over acc :=
    Json.scanOn_over ⟨[], .gap⟩ acc s
  rw [hover, Json.tokens?_eq, Option.map_map, Option.map_map]
  congr 1
  funext last
  simp [Json.Scan.over]

lemma tokens?_word (hw : Spells w t) (hs : Bare w → ∀ c ∈ s.head?, isBare c = false) :
    tokens? (w ++ s) = (tokens? s).map (t :: ·) := by
  rw [Json.tokens?_eq, Json.scanOn_word hw.shape.word hs, hw.scanOn_eq, Option.bind_some,
    tokens?_over]
  rfl

/-- All that is spelled by numbers and keywords is numbers and keywords. -/
lemma atomic_of_spaced {ws : List (List Char)} (hs : Spaced ws s)
    (h : List.Forall₂ Spells ws toks) (hbare : ∀ c ∈ s, isBare c) : ∀ t ∈ toks, t.Atomic := by
  induction hs generalizing toks with
  | last _ =>
    cases h
    simp
  | @word g w s ws _ _ ih =>
    obtain ⟨t, toks, hw, hws, rfl⟩ := List.forall₂_cons_left_iff.1 h
    have hatomic : t.Atomic := by
      cases hw.shape with
      | mark hmark =>
        have hc : isBare _ := hbare _ (List.mem_append_right g (List.mem_cons_self ..))
        rw [Json.isBare_of_isMark (Json.isMark_of_mark? hmark)] at hc
        cases hc
      | bare _ ht => exact ht
      | literal _ => exact absurd (hbare '"' (by simp)) (by decide)
    exact List.forall_mem_cons.2 ⟨hatomic, ih hws fun c hc => hbare c (by simp [hc])⟩

/-- No scan goes on at a character of a key that does not belong to a number or keyword. -/
lemma scanOn_foreign {c : Char} (hpart : isKeyPart c) (hbare : isBare c = false)
    (acc : List Json.Token) (s : List Char) : scanOn ⟨acc, .gap⟩ (c :: s) = none := by
  have hgap : isGap c = false := by
    cases hgap : isGap c with
    | false => rfl
    | true =>
      rw [not_isKeyPart_of_isBlank (Lenient.isBlank_of_isGap hgap)] at hpart
      cases hpart
  have hmark : isMark c = false := by
    cases hmark : isMark c with
    | false => rfl
    | true =>
      rw [not_isKeyPart_of_isMark hmark] at hpart
      cases hpart
  have hquote : c ≠ '"' := by
    rintro rfl
    exact absurd hpart (by decide)
  have hnumber : (Text.isAsciiDigit c || c == '-') = false := by
    cases hstart : Text.isAsciiDigit c || c == '-' with
    | false => rfl
    | true =>
      rw [Json.isBare_of_number_start hstart] at hbare
      cases hbare
  have hletter : ('a' ≤ c && c ≤ 'z') = false := (Bool.or_eq_false_iff.1 hbare).2
  rw [Json.scanOn_cons, Json.Scan.step_of_gap rfl, Json.Scan.start_other hgap hmark hquote, hnumber,
    hletter]
  rfl

/-- A key without quotes is not read as JSON, unless all its characters belong to numbers and
keywords. -/
lemma IsKey.bare_of_read (hw : IsKey w) (h : tokens? (w ++ s) = some toks) : Bare w := by
  obtain ⟨last, hlast, -⟩ := Option.map_eq_some_iff.1 h
  obtain ⟨bares, hbares, hsplit⟩ := Text.exists_split isBare w
  cases hrest : w.dropWhile isBare with
  | nil =>
    rw [hrest, List.append_nil] at hsplit
    exact ⟨hw.ne_nil, hsplit ▸ hbares⟩
  | cons c rest =>
    have hpart : isKeyPart c := hw.part c (by rw [hsplit, hrest]; simp)
    have hbare : isBare c = false := Text.head?_dropWhile isBare w c (by rw [hrest]; rfl)
    have hscan : scanOn ⟨[], .gap⟩ (bares ++ c :: (rest ++ s)) = some last := by
      rw [← List.cons_append, ← List.append_assoc, ← hrest, ← hsplit]
      exact hlast
    rw [Json.scanOn_bare (s := ⟨[], .gap⟩) trivial hbares fun d hd => by cases hd; exact hbare]
      at hscan
    obtain ⟨middle, hmiddle, hscan⟩ := Option.bind_eq_some_iff.1 hscan
    obtain ⟨ws, own, -, -, rfl⟩ := Json.spelled_of_scanOn hmiddle
    rw [scanOn_foreign hpart hbare] at hscan
    cases hscan

/-- Characters of numbers and keywords end with a number or a keyword. -/
lemma tokens?_bare (hw : Bare w) (hs : ∀ c ∈ s.head?, isBare c = false)
    (h : tokens? (w ++ s) = some toks) :
    ∃ before tok behind, tok.Atomic ∧ tokens? s = some behind ∧ toks = before ++ tok :: behind := by
  rw [Json.tokens?_eq, Json.scanOn_bare (s := ⟨[], .gap⟩) trivial hw.2 hs] at h
  obtain ⟨last, hlast, rfl⟩ := Option.map_eq_some_iff.1 h
  obtain ⟨middle, hmiddle, hscan⟩ := Option.bind_eq_some_iff.1 hlast
  obtain ⟨ws, own, hws, hspaced, rfl⟩ := Json.spelled_of_scanOn hmiddle
  have hown : ∀ t ∈ own, t.Atomic := atomic_of_spaced hspaced hws hw.2
  have hover := tokens?_over (own.reverse ++ []) s
  rw [hscan, Option.map_some, List.append_nil, List.reverse_reverse] at hover
  obtain ⟨behind, hbehind, hlast⟩ := Option.map_eq_some_iff.1 hover.symm
  rcases List.eq_nil_or_concat own with rfl | ⟨before, tok, rfl⟩
  · cases hws
    cases hspaced with
    | last hg =>
      obtain ⟨c, hc⟩ := List.exists_mem_of_ne_nil w hw.1
      have hgap : isGap c = false := Json.isGap_of_isBare (hw.2 c hc)
      rw [hg c hc] at hgap
      cases hgap
  · refine ⟨before, tok, behind, hown tok (by simp), hbehind, ?_⟩
    rw [← hlast]
    simp

end

/-! ### The first reading -/

section

variable {ts : List Json.Token} {us vs : List (List Char)} {before s : List Char}

/-- The first word writes the first token. -/
lemma Bared.head_spells (h : Bared ts us) {w : List Char} (hw : w ∈ us.head?) :
    ∃ t ∈ ts.head?, Spells w t := by
  cases h with
  | nil => cases hw
  | word hspells _ =>
    cases hw
    exact ⟨_, rfl, hspells⟩
  | key hmark _ _ _ =>
    cases hw
    exact ⟨_, rfl, hmark⟩

/-- Where a part has ended, a comma or a closing bracket is the next word. -/
lemma Bared.head_ended (h : Bared ts us) (hts : ∀ t ∈ ts.head?, t = .comma ∨ t.Closing) :
    ∀ w ∈ us.head?, w = [','] ∨ Json.IsCloser w := by
  intro w hw
  obtain ⟨t, ht, hspells⟩ := h.head_spells hw
  rcases hts t ht with rfl | rfl | rfl
  · exact .inl (hspells.shape.eq_mark rfl)
  · exact .inr (.inl (hspells.shape.eq_mark rfl))
  · exact .inr (.inr (hspells.shape.eq_mark rfl))

/-- Where a part has ended, what comes next does not go on with a number or keyword. -/
lemma Bared.head_not_bare (h : Bared ts us) (ht : Trailing EndsPart before us vs)
    (hs : Spaced vs s) (hts : ∀ t ∈ ts.head?, t = .comma ∨ t.Closing) :
    ∀ c ∈ s.head?, isBare c = false := by
  have hmark : ∀ v ∈ vs.head?, v = [','] ∨ Json.IsCloser v := by
    intro v hv
    cases ht with
    | nil => cases hv
    | keep _ => exact h.head_ended hts v hv
    | comma _ _ _ =>
      cases hv
      exact .inl rfl
  refine hs.head_not_bare fun v hv => ?_
  rcases hmark v hv with rfl | rfl | rfl
  all_goals exact ⟨.mark (by decide), Json.not_bare_mark (by decide)⟩

lemma spells_mark {t : Json.Token} {c : Char} (h : t.mark? = some c) : Spells [c] t where
  shape := .mark h
  read := by cases t <;> cases h <;> rfl

/-- A word that a key may stand behind. -/
lemma eq_of_opens {w : List Char} {t : Json.Token} (h : Spells w t)
    (ht : t = .openBrace ∨ t = .comma) : w = ['\x7b'] ∨ w = [','] := by
  rcases ht with rfl | rfl
  · exact .inl (h.shape.eq_mark rfl)
  · exact .inr (h.shape.eq_mark rfl)

/-- What is read of a key without quotes ends with a number or a keyword, where its colon cannot
come. -/
lemma IsKey.not_meets {name : List Char} {toks : List Json.Token} (hname : IsKey name)
    (hs : Spaced ([':'] :: vs) s) (h : tokens? (name ++ s) = some toks) :
    ¬ toks.IsChain Json.Token.Meets := by
  intro htoks
  have hmark : ¬ Bare [':'] := Json.not_bare_mark (by decide)
  have hhead : ∀ c ∈ s.head?, isBare c = false := hs.head_not_bare fun v hv => by
    cases hv
    exact ⟨.mark (by decide), hmark⟩
  obtain ⟨first, tok, behind, hatomic, hbehind, rfl⟩ := tokens?_bare (hname.bare_of_read h) hhead h
  cases hs with
  | word hg _ =>
    rw [tokens?_blanks hg, tokens?_word (spells_mark (t := .colon) rfl) fun h => absurd h hmark]
      at hbehind
    obtain ⟨more, -, rfl⟩ := Option.map_eq_some_iff.1 hbehind
    rw [List.isChain_append_cons_cons] at htoks
    rcases htoks.2.1.ended hatomic with h | h | h <;> cases h

/-- Read as JSON a rendering has its own tokens, unless they are such as do not meet. -/
lemma tokens_eq_of_read {toks : List Json.Token} (hb : Bared ts us)
    (ht : Trailing EndsPart before us vs) (hs : Spaced vs s) (hts : ts.IsChain Json.Token.Meets)
    (hread : tokens? s = some toks) (htoks : toks.IsChain Json.Token.Meets) : toks = ts := by
  induction hb generalizing before vs s toks with
  | nil =>
    cases ht
    cases hs with
    | last hg =>
      rw [← List.append_nil s, tokens?_blanks hg] at hread
      cases hread
      rfl
  | @word t ts w ws hw hb ih =>
    obtain ⟨hnext, hts⟩ := List.isChain_cons.1 hts
    have hbehind : Bare w → ∀ u ∈ ts.head?, u = .comma ∨ u.Closing :=
      fun hbare u hu => (hnext u hu).ended (hw.shape.atomic hbare)
    cases ht with
    | keep ht =>
      cases hs with
      | word hg hs =>
        rw [tokens?_blanks hg, tokens?_word hw fun hbare => hb.head_not_bare ht hs (hbehind hbare)]
          at hread
        obtain ⟨rest, hrest, rfl⟩ := Option.map_eq_some_iff.1 hread
        rw [ih ht hs hts hrest (List.isChain_cons.1 htoks).2]
    | comma _ hclose ht =>
      cases hs with
      | word hg hs =>
        rw [tokens?_blanks hg, tokens?_word (spells_mark (t := .comma) rfl)
          fun hbare => absurd hbare (Json.not_bare_mark (by decide))] at hread
        cases hs with
        | word hg' hs =>
          rw [tokens?_blanks hg', tokens?_word hw
            fun hbare => hb.head_not_bare ht hs (hbehind hbare)] at hread
          obtain ⟨rest, hrest, rfl⟩ := Option.map_eq_some_iff.1 hread
          obtain ⟨rest, -, rfl⟩ := Option.map_eq_some_iff.1 hrest
          exact absurd (hw.shape.closing hclose) (((List.isChain_cons.1 htoks).1 _ rfl).full rfl)
  | @key t ts mark name ws hmark ht' hname hb ih =>
    exfalso
    have hopens := eq_of_opens hmark ht'
    have hbare : ¬ Bare mark := by
      rcases hopens with rfl | rfl <;> exact Json.not_bare_mark (by decide)
    obtain ⟨vs, rfl, hkey⟩ := ht.kept (by rcases hopens with rfl | rfl <;> simp [Json.IsCloser])
    obtain ⟨vs, rfl, hcolon⟩ := hkey.kept hname.not_closer
    obtain ⟨vs, rfl, -⟩ := hcolon.kept (by simp [Json.IsCloser])
    cases hs with
    | word hg hs =>
      rw [tokens?_blanks hg, tokens?_word hmark fun h => absurd h hbare] at hread
      obtain ⟨rest, hrest, rfl⟩ := Option.map_eq_some_iff.1 hread
      cases hs with
      | word hg' hs =>
        rw [tokens?_blanks hg'] at hrest
        exact hname.not_meets hs hrest (List.isChain_cons.1 htoks).2

variable {u w : Value} {t : List Char}

/-- Read as JSON a rendering has the value of what it writes, or none. -/
lemma value?_of_read (hvs : Renders u vs) (ht : Spaced vs t)
    (h : Value.ofText? (.ofList t) = some w) :
    (Json.Term.ofValue u).value? Json.depthLimit = some w := by
  obtain ⟨us, hb, htrailing⟩ := hvs
  obtain ⟨u', ws, htokens, -, -, hvalue⟩ := Json.words_of_ofText? h
  rw [String.toList_ofList] at htokens
  have heq : u'.tokens = u.tokens :=
    tokens_eq_of_read hb htrailing ht u.meets_tokens htokens u'.meets_tokens
  have hterm : Json.Term.ofValue u' = Json.Term.ofValue u := by
    rw [← Option.some_inj, ← Json.ofTokens?_tokens, heq, Json.ofTokens?_tokens]
  rwa [← hterm]

/-- A text that is JSON has the value of what it writes. -/
lemma ofText?_of_spells (hvs : List.Forall₂ Spells vs u.tokens) (ht : Spaced vs t) :
    Value.ofText? (.ofList t) = (Json.Term.ofValue u).value? Json.depthLimit := by
  have hterm : Json.Term.ofText? (.ofList t) = some (.ofValue u) :=
    Json.Writes.ofText? ⟨_, hvs, Json.ofTokens?_tokens u⟩ (by rwa [String.toList_ofList])
  rw [Value.ofText?, hterm, Option.bind_some]

end

end Estate.Script
