import Mathlib.Data.List.Infix
import Estate.Mapping.Load
import Estate.Proofs.Failure
import Estate.Proofs.Json.Assembly
import Estate.Proofs.Lenient.Found
import Estate.Regex.Weight

/-!
What lenient loading accepts: words of JSON texts with comments and commas between them. The commas
may stand in empty brackets and the comments within numbers and keywords.
-/

namespace Estate

namespace Lenient

open Json

/-! ### Commas -/

lemma hungry_of_spells {a b : Assembly} {w : List Char} {t : Token} (hw : Shaped w t)
    (hends : ¬ EndsPartOrOpens w) (h : a.step t = some b) : Hungry b := by
  simp only [EndsPartOrOpens, not_not, List.mem_cons, List.not_mem_nil, or_false] at hends
  rcases hends with rfl | rfl | rfl
  · cases hw.word with
    | bare h => exact absurd rfl h.1
  · exact hungry_of_step (.inl hw.comma) h
  · have hcolon : t = .colon := by
      have hmark := hw.mark?_eq (by decide)
      cases t <;> simp_all [Token.mark?]
    exact hungry_of_step (.inr hcolon) h

/-- In tokens that make a term no bracket closes where a value or key has to come, so that the added
commas do not stand there. -/
lemma Trailing.of_tokens {before : List Char} {ws vs : List (List Char)} {toks : List Token}
    {a b : Assembly} (h : Trailing (fun _ => True) before ws vs)
    (hws : List.Forall₂ Spells ws toks) (hrun : a.run toks = some b)
    (ha : ¬ EndsPartOrOpens before → Hungry a) : Trailing EndsPartOrOpens before ws vs := by
  induction h generalizing toks a with
  | nil => exact .nil
  | keep _ ih =>
    obtain ⟨t, toks, hw, hrest, rfl⟩ := List.forall₂_cons_left_iff.1 hws
    rw [Assembly.run_cons] at hrun
    obtain ⟨a', hstep, hrun⟩ := Option.bind_eq_some_iff.1 hrun
    exact .keep (ih hrest hrun fun hends => hungry_of_spells hw.shape hends hstep)
  | comma _ hclose _ ih =>
    obtain ⟨t, toks, hw, hrest, rfl⟩ := List.forall₂_cons_left_iff.1 hws
    rw [Assembly.run_cons] at hrun
    obtain ⟨a', hstep, hrun⟩ := Option.bind_eq_some_iff.1 hrun
    refine .comma ?_ hclose (ih hrest hrun fun hends => hungry_of_spells hw.shape hends hstep)
    by_contra hends
    rw [step_closing_of_hungry (ha hends) (hw.shape.closing hclose)] at hstep
    cases hstep

/-- A text that is read behind the two passes is words of a JSON text with comments and commas. -/
lemma writes_of_clean {t : String} {term : Term} (h : Term.ofText? (clean t) = some term) :
    ∃ ws, Writes ws term ∧ Loose ws t.toList := by
  obtain ⟨toks, htokens, hterm⟩ := Option.bind_eq_some_iff.1 h
  rw [clean, String.toList_ofList, tokens?_eq] at htokens
  obtain ⟨last, hlast, rfl⟩ := Option.map_eq_some_iff.1 htokens
  obtain ⟨ws, vs, toks, hws, htrailing, hlaid, rfl⟩ := found_of_scanOn hlast
  rw [List.append_nil, List.reverse_reverse] at hterm
  obtain ⟨b, hrun⟩ := run_of_ofTokens? hterm
  exact ⟨ws, ⟨toks, hws, hterm⟩, vs, htrailing.of_tokens hws hrun fun _ => .inl rfl, hlaid⟩

end Lenient

open Json Lenient

/-- **Lenient loading accepts JSON texts with comments and commas only**: an accepted text consists
of the words of a JSON text, which strict loading reads as the same mapping, with complete comments
where blanks may stand, with block comments in numbers and keywords, maybe with a block comment at
its end that is not complete, and with single commas behind last elements and members and between
the brackets of empty arrays and objects. -/
theorem lenient_accepts_only [Regex.Engine] {name t : String} {m : Mapping}
    (h : Mapping.ofLenientText name t = .ok m) :
    ∃ ws term, Writes ws term ∧ Loose ws t.toList ∧
      ∀ s : String, Spaced ws s.toList → Mapping.ofText name s = .ok m := by
  unfold Mapping.ofLenientText Mapping.ofText at h
  split at h
  · next term hterm =>
    obtain ⟨ws, hwrites, hloose⟩ := writes_of_clean hterm
    refine ⟨ws, term, hwrites, hloose, fun s hs => ?_⟩
    rw [Mapping.ofText, hwrites.ofText? hs]
    exact h
  · cases h

theorem lenient_accepts_only_commented :
    ∃ m, Mapping.ofLenientText "m" "\x7b/**/,\x7d//" = .ok m ∧
      ∃ ws term, Writes ws term ∧ Loose ws "\x7b/**/,\x7d//".toList ∧
        ∀ s : String, Spaced ws s.toList → Mapping.ofText "m" s = .ok m := by
  have haccepted : (Mapping.ofLenientText "m" "\x7b/**/,\x7d//").toOption.any fun _ => true := by
    decide +kernel
  obtain ⟨m, hm, -⟩ := Failure.ok_of_any haccepted
  exact ⟨m, hm, lenient_accepts_only hm⟩

namespace Lenient

/-! ### Texts that are not tidy -/

section

variable {ws : List (List Char)} {t : List Char}

/-- A tidy text leaves no comment open. -/
lemma strip_closed (h : Laid Eq Ending ws t) (hw : ∀ w ∈ ws, Word w) (more : List Char) :
    stripFrom .outside (t ++ '\n' :: more) =
      stripFrom .outside t ++ '\n' :: stripFrom .outside more := by
  induction h with
  | @last f e hf he =>
    obtain ⟨g, hg, hstrip⟩ := strip_filler hf
    rw [List.append_assoc, hstrip, hstrip, strip_ending (.ending he), List.append_nil]
    cases he with
    | nil => rw [List.nil_append, stripFrom_plain (by decide)]; rfl
    | line hbody => rw [List.cons_append, List.cons_append, stripFrom, strip_line hbody]
  | @word f w v t ws hf hv _ ih =>
    obtain ⟨g, hg, hstrip⟩ := strip_filler hf
    have hword : Word w := hw w (by simp)
    rw [List.append_assoc, List.append_assoc, hstrip, hstrip, strip_joined hword (.inl hv),
      strip_joined hword (.inl hv), ih fun u hu => hw u (by simp [hu])]
    simp

/-- The words of a tidy text stand in it as they are. -/
lemma infix_of_laid (h : Laid Eq Ending ws t) : ∀ w ∈ ws, w <:+: t := by
  induction h with
  | last _ _ => simp
  | @word f w v t ws _ hv _ ih =>
    subst hv
    intro u hu
    rcases List.mem_cons.1 hu with rfl | hu
    · exact ⟨f, t, by simp⟩
    · exact (ih u hu).trans ⟨f ++ w, [], by simp⟩

/-- Where no blank is next, a word is. -/
lemma spaced_cons {c : Char} (hs : Spaced ws (c :: t)) (hw : ∀ w ∈ ws, Word w)
    (hc : isGap c = false) : ∃ w vs s, ws = w :: vs ∧ Word w ∧ w ++ s = c :: t ∧ Spaced vs s := by
  generalize hct : c :: t = s at hs
  cases hs with
  | last hg =>
    have hgap : isGap c := hg c (by simp [← hct])
    rw [hc] at hgap
    cases hgap
  | @word g w s vs hg hrest =>
    cases g with
    | nil => exact ⟨w, vs, s, rfl, hw w (by simp), by simp, hrest⟩
    | cons d g =>
      obtain ⟨rfl, -⟩ := List.cons.inj hct
      have hgap : isGap c := hg c (by simp)
      rw [hc] at hgap
      cases hgap

lemma spaced_mark {c : Char} (hs : Spaced ws (c :: t)) (hw : ∀ w ∈ ws, Word w) (hc : isMark c) :
    ∃ vs, ws = [c] :: vs ∧ Spaced vs t := by
  obtain ⟨w, vs, s, rfl, hword, hct, hrest⟩ := spaced_cons hs hw (isGap_of_isMark hc)
  cases hword with
  | mark _ =>
    obtain ⟨rfl, rfl⟩ := List.cons.inj hct
    exact ⟨vs, rfl, hrest⟩
  | bare hb =>
    cases w with
    | nil => exact absurd rfl hb.1
    | cons d w =>
      obtain ⟨rfl, -⟩ := List.cons.inj hct
      have hbare : isBare d := hb.2 d (by simp)
      rw [isBare_of_isMark hc] at hbare
      cases hbare
  | literal _ =>
    obtain ⟨rfl, -⟩ := List.cons.inj hct
    cases hc

lemma spaced_nil (hs : Spaced ws []) (hw : ∀ w ∈ ws, Word w) : ws = [] := by
  generalize hnil : [] = s at hs
  cases hs with
  | last _ => rfl
  | @word g w s vs _ _ =>
    have hempty : w = [] := by
      have h := List.append_eq_nil_iff.1 hnil.symm
      exact (List.append_eq_nil_iff.1 h.2).1
    cases hw w (by simp) with
    | mark _ => cases hempty
    | bare hb => exact absurd hempty hb.1
    | literal _ => cases hempty

lemma word_of_tidy {vs : List (List Char)} {term : Term} (hws : Writes ws term)
    (h : Trailing EndsPart [] ws vs) : ∀ v ∈ vs, Word v := by
  obtain ⟨toks, htoks, -⟩ := hws
  exact h.word (word_of_shaped (htoks.imp fun _ _ h => h.shape))

/-- A comma alone between brackets follows no part. -/
lemma not_tidy_comma {term : Term} (hws : Writes ws term) : ¬ Tidy ws ['{', ',', '}'] := by
  rintro ⟨vs, htrailing, hlaid⟩
  have hword := word_of_tidy hws htrailing
  have hs : Spaced vs ['{', ',', '}'] :=
    strip_laid (hlaid.mono (fun _ _ h => .inl h) fun _ h => .ending h) hword
  obtain ⟨vs₁, rfl, hs₁⟩ := spaced_mark hs hword (by decide)
  obtain ⟨vs₂, rfl, hs₂⟩ := spaced_mark hs₁ (fun v hv => hword v (by simp [hv])) (by decide)
  obtain ⟨vs₃, rfl, hs₃⟩ := spaced_mark hs₂ (fun v hv => hword v (by simp [hv])) (by decide)
  obtain rfl := spaced_nil hs₃ fun v hv => hword v (by simp [hv])
  obtain ⟨toks, htoks, hterm⟩ := hws
  cases htrailing with
  | keep h =>
    cases h with
    | comma hb _ _ => exact hb (by simp)
    | keep h =>
      cases h with
      | keep h =>
        cases h
        have hscan : [['{'], [','], ['}']].foldlM scanOn ⟨[], .gap⟩ =
            some ⟨[.closeBrace, .comma, .openBrace], .gap⟩ := rfl
        rw [foldlM_spells htoks, List.append_nil] at hscan
        have hreverse : toks.reverse = [.closeBrace, .comma, .openBrace] :=
          congrArg Scan.tokens (Option.some.inj hscan)
        rw [List.reverse_eq_iff.1 hreverse] at hterm
        cases hterm

/-- A comment in a keyword is no blank between words. -/
lemma not_tidy_comment {term : Term} (hws : Writes ws term) :
    ¬ Tidy ws ['[', 'n', 'u', '/', '*', '*', '/', 'l', 'l', ']'] := by
  rintro ⟨vs, htrailing, hlaid⟩
  have hword := word_of_tidy hws htrailing
  have hs : Spaced vs ['[', 'n', 'u', 'l', 'l', ']'] :=
    strip_laid (hlaid.mono (fun _ _ h => .inl h) fun _ h => .ending h) hword
  obtain ⟨vs₁, rfl, hs₁⟩ := spaced_mark hs hword (by decide)
  obtain ⟨w, vs₂, s, rfl, hw, hsplit, -⟩ :=
    spaced_cons hs₁ (fun v hv => hword v (by simp [hv])) (by decide)
  have hread : ∃ tok, tokens? w = some [tok] := by
    obtain ⟨toks, htoks, -⟩ := hws
    cases htrailing with
    | keep h =>
      obtain ⟨-, toks, -, hrest, -⟩ := List.forall₂_cons_left_iff.1 htoks
      cases h with
      | keep _ =>
        obtain ⟨tok, -, hspells, -⟩ := List.forall₂_cons_left_iff.1 hrest
        exact ⟨tok, hspells.read⟩
      | comma _ _ _ => cases hsplit
  obtain ⟨tok, hread⟩ := hread
  have hinside := infix_of_laid hlaid w (by simp)
  have hstart : w ∈ List.inits ['n', 'u', 'l', 'l', ']'] := (List.mem_inits _ _).2 ⟨s, hsplit⟩
  simp only [List.inits, List.map_cons, List.map_nil, List.mem_cons, List.not_mem_nil,
    or_false] at hstart
  rcases hstart with rfl | rfl | rfl | rfl | rfl | rfl
  · cases hread
  · cases hread
  · cases hread
  all_goals exact absurd hinside (by decide)

/-- A block comment that does not end is no filler. -/
lemma not_tidy_open {term : Term} (hws : Writes ws term) : ¬ Tidy ws ['{', '}', ' ', '/', '*'] := by
  rintro ⟨vs, htrailing, hlaid⟩
  have hclosed := strip_closed hlaid (word_of_tidy hws htrailing) []
  exact absurd hclosed (by decide)

end

end Lenient

/-- The text is loaded, but is no JSON text with complete comments where blanks may stand and with
commas behind last elements and members. -/
def AcceptedUntidy [Regex.Engine] (t : String) : Prop :=
  (∃ m, Mapping.ofLenientText "m" t = .ok m) ∧ ¬ ∃ ws term, Writes ws term ∧ Tidy ws t.toList

lemma acceptedUntidy [Regex.Engine] {t : String}
    (haccepted : (Mapping.ofLenientText "m" t).toOption.any fun _ => true)
    (h : ∀ {ws term}, Writes ws term → ¬ Tidy ws t.toList) : AcceptedUntidy t := by
  obtain ⟨m, hm, -⟩ := Failure.ok_of_any haccepted
  refine ⟨⟨m, hm⟩, ?_⟩
  rintro ⟨ws, term, hws, htidy⟩
  exact h hws htidy

/-- A comma alone between brackets, a comment in a keyword and a comment that does not end are
accepted. -/
theorem lenient_accepts_untidy :
    AcceptedUntidy "\x7b,\x7d" ∧ AcceptedUntidy "[nu/**/ll]" ∧ AcceptedUntidy "\x7b\x7d /*" :=
  ⟨acceptedUntidy (by decide +kernel) not_tidy_comma,
    acceptedUntidy (by decide +kernel) not_tidy_comment,
    acceptedUntidy (by decide +kernel) not_tidy_open⟩

end Estate
