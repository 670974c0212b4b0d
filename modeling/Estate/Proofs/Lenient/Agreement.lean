import Estate.Proofs.Failure
import Estate.Proofs.Json.Depth
import Estate.Proofs.Json.Printing
import Estate.Proofs.Lenient.Grammar
import Estate.Regex.Weight

/-!
The three ways to load a mapping agree: from a text with comments and trailing commas, from the
compact text of a value, and from the value.
-/

namespace Estate

open Json Lenient

namespace Lenient

lemma filler_of_blanks {g : List Char} (hg : Blanks g) : Filler g := by
  induction g with
  | nil => exact .nil
  | cons c g ih => exact .blank (hg c (by simp)) (ih fun d hd => hg d (by simp [hd]))

/-- Words with nothing but blanks around them are tidy. -/
lemma tidy_of_spaced {ws : List (List Char)} {s : List Char} (h : Spaced ws s) : Tidy ws s := by
  refine ⟨ws, .refl ws, ?_⟩
  induction h with
  | @last g hg =>
    rw [← List.append_nil g]
    exact .last (filler_of_blanks hg) .nil
  | word hg _ ih => exact .word (filler_of_blanks hg) rfl ih

lemma tidy_flatten (ws : List (List Char)) : Tidy ws ws.flatten :=
  tidy_of_spaced (spaced_flatten ws)

end Lenient

namespace Mapping

/-- A text that is read as the value writes is loaded as the value. -/
lemma ofText_of_term [Regex.Engine] {name s : String} {v : Value}
    (h : Term.ofText? s = some (.ofValue v)) (hdepth : (Term.ofValue v).depth ≤ depthLimit) :
    ofText name s = ofValue name v := by
  rw [ofText, h]
  exact ofTerm_ofValue name hdepth

end Mapping

/-- **The loaders agree**: let a text consist of words with comments where blanks may stand and with
commas behind last elements and members. If the words write the tokens of a value, in whichever
spelling, the words are left as they are and the text is loaded as the value. If they are the words
of the compact text, the text is loaded as the compact text. The compact text is loaded as the value
if the floats in it are read back. -/
theorem loaders_agree [Regex.Engine] (name : String) {v : Value} (hrange : v.InRange)
    (hdepth : (Term.ofValue v).depth ≤ depthLimit) :
    (∀ (ws : List (List Char)) (t : String), List.Forall₂ Spells ws v.tokens → Tidy ws t.toList →
      Spaced ws (clean t).toList ∧ Mapping.ofLenientText name t = Mapping.ofValue name v) ∧
    (∀ t : String, Tidy v.words t.toList →
      Mapping.ofLenientText name t = Mapping.ofText name v.toText) ∧
    (v.Exact → Mapping.ofText name v.toText = Mapping.ofValue name v) := by
  have hprinted : Spaced v.words v.toText.toList := by
    rw [Value.toText, String.toList_ofList]
    exact v.spaced_render
  have hclean : ∀ {ws t}, List.Forall₂ Shaped ws v.tokens → Tidy ws t.toList →
      Spaced ws (clean t).toList := fun hws ht =>
    clean_loose ht.loose (word_of_shaped hws) (chain_of_shaped hws v.isChain_tokens)
  refine ⟨fun ws t hws ht => ?_, fun t ht => ?_, fun hexact => ?_⟩
  · have hspaced : Spaced ws (clean t).toList := hclean (hws.imp fun _ _ h => h.shape) ht
    have hwrites : Writes ws (.ofValue v) := ⟨v.tokens, hws, ofTokens?_tokens v⟩
    exact ⟨hspaced, Mapping.ofText_of_term (hwrites.ofText? hspaced) hdepth⟩
  · have hspaced : Spaced v.words (clean t).toList := hclean v.shaped_words ht
    have hwords := word_of_shaped v.shaped_words
    have hchain := chain_of_shaped v.shaped_words v.isChain_tokens
    rw [Mapping.ofLenientText, Mapping.ofText, Mapping.ofText, Term.ofText?, Term.ofText?,
      tokens?_spaced hspaced hwords hchain, tokens?_spaced hprinted hwords hchain]
  · have hwrites : Writes v.words (.ofValue v) :=
      ⟨v.tokens, v.spells_words hrange hexact, ofTokens?_tokens v⟩
    exact Mapping.ofText_of_term (hwrites.ofText? hprinted) hdepth

/-- Comment marks, a comma and a bracket in a string literal. -/
def markedName : Value := .object [("name", .string "//,]")]

theorem loaders_agree_marked :
    markedName.InRange ∧ (Term.ofValue markedName).depth ≤ depthLimit ∧
      Tidy markedName.words "\x7b/*\"*/\"name\":\"//,]\",//\n\x7d//".toList ∧
      Mapping.ofLenientText "m" "\x7b/*\"*/\"name\":\"//,]\",//\n\x7d//" =
        Mapping.ofValue "m" markedName ∧
      Mapping.ofText "m" markedName.toText = Mapping.ofValue "m" markedName := by
  have htokens : markedName.tokens = [.openBrace, .text (some "name"), .colon,
    .text (some "//,]"), .closeBrace] := rfl
  have hrange : markedName.InRange := by
    intro n hn
    simp [htokens] at hn
  have hexact : markedName.Exact := by
    intro x hx
    simp [htokens] at hx
  have hdepth : (Term.ofValue markedName).depth ≤ depthLimit := by decide
  have htext : Laid Eq Ending
      [['{'], quote "name", [':'], quote "//,]", [','], ['}']]
      ([] ++ (['{'] ++ (['/', '*', '"', '*', '/'] ++ (quote "name" ++ ([] ++ ([':'] ++
        ([] ++ (quote "//,]" ++ ([] ++ ([','] ++ (['/', '/', '\n'] ++ (['}'] ++
          ([] ++ ['/', '/']))))))))))))) := by
    have hquote : Unclosed ['"'] := by unfold Unclosed; decide
    have hempty : '\n' ∉ ([] : List Char) := by simp
    refine .word .nil rfl (.word (.block hquote .nil) rfl (.word .nil rfl (.word .nil rfl ?_)))
    exact .word .nil rfl (.word (.line hempty .nil) rfl (.last .nil (.line hempty)))
  have htidy : Tidy markedName.words "\x7b/*\"*/\"name\":\"//,]\",//\n\x7d//".toList :=
    ⟨_, .keep (.keep (.keep (.keep (.comma (by unfold EndsPart; decide) (.inr rfl) .nil)))), htext⟩
  have h := loaders_agree "m" hrange hdepth
  exact ⟨hrange, hdepth, htidy, (h.1 _ _ (Value.spells_words hrange hexact) htidy).2, h.2.2 hexact⟩

/-- A float next to the one that is read from its text. -/
def fragileRate : Value :=
  .object [("expectedExtractionRate", .number (.float ⟨false, ⟨4262707295203537489, by decide⟩⟩))]

/-- The compact text of a value, in which no comment stands, may be loaded as another mapping than
the value is. -/
theorem compact_text_differs :
    fragileRate.InRange ∧ (Term.ofValue fragileRate).depth ≤ depthLimit ∧
      Tidy fragileRate.words fragileRate.toText.toList ∧
      ∃ m l n, Mapping.ofText "m" fragileRate.toText = .ok m ∧
        Mapping.ofLenientText "m" fragileRate.toText = .ok l ∧
        Mapping.ofValue "m" fragileRate = .ok n ∧
        m.expectedRate ≠ n.expectedRate ∧ l.expectedRate ≠ n.expectedRate := by
  have htidy : Tidy fragileRate.words fragileRate.toText.toList := by
    rw [Value.toText, String.toList_ofList, ← Value.flatten_tokens]
    exact tidy_flatten _
  have hrates : (Mapping.ofValue "m" fragileRate).toOption.any fun n =>
      (Mapping.ofText "m" fragileRate.toText).toOption.any (·.expectedRate != n.expectedRate) &&
      (Mapping.ofLenientText "m" fragileRate.toText).toOption.any
        (·.expectedRate != n.expectedRate) := by
    decide +kernel
  refine ⟨fun n hn => ?_, by decide, htidy, ?_⟩
  · have htokens : fragileRate.tokens = [.openBrace, .text (some "expectedExtractionRate"), .colon,
      .number (some (.float ⟨false, ⟨4262707295203537489, by decide⟩⟩)), .closeBrace] := rfl
    simp only [htokens, List.mem_cons, Token.number.injEq, reduceCtorEq, Option.some.injEq,
      List.not_mem_nil, or_false, false_or] at hn
    subst hn
    trivial
  · obtain ⟨n, hn, hdiffer⟩ := Failure.ok_of_any hrates
    rw [Bool.and_eq_true] at hdiffer
    obtain ⟨m, hm, hmn⟩ := Failure.ok_of_any hdiffer.1
    obtain ⟨l, hl, hln⟩ := Failure.ok_of_any hdiffer.2
    exact ⟨m, l, n, hm, hl, hn, bne_iff_ne.1 hmn, bne_iff_ne.1 hln⟩

end Estate
