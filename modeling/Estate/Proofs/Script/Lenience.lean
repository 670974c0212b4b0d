import Estate.Proofs.Script.Rewriting

/-!
Literals in the manner of scripts are read as the values they write, unless there is something in
their string literals that is rewritten.
-/

namespace Estate.Script

open Json (Value Spells Spaced IsCloser)
open Lenient (Trailing closes EndsPart)

/-! ### The second reading -/

section

variable {ts : List Json.Token} {us vs : List (List Char)} {t : List Char}

/-- In the words of tokens no bracket closes behind a comma. -/
lemma Bared.full (h : Bared ts us) (hts : ts.IsChain Json.Token.Meets) :
    us.IsChain fun v w => v = [','] → ¬ IsCloser w := by
  induction h with
  | nil => exact .nil
  | @word t ts w us hw h ih =>
    obtain ⟨hnext, hts⟩ := List.isChain_cons.1 hts
    refine List.isChain_cons.2 ⟨fun v hv => ?_, ih hts⟩
    rintro rfl hclose
    have hcomma : t = .comma := hw.shape.comma
    obtain ⟨u, hu, hspells⟩ := h.head_spells hv
    exact (hnext u hu).full hcomma (hspells.shape.closing hclose)
  | @key t ts mark name us _ _ hname _ ih =>
    have hrest : us.IsChain fun v w => v = [','] → ¬ IsCloser w :=
      ih (List.isChain_cons.1 (List.isChain_cons.1 (List.isChain_cons.1 hts).2).2).2
    refine .cons_cons (fun _ => hname.not_closer) (.cons_cons (fun _ => by simp [IsCloser]) ?_)
    exact List.isChain_cons.2 ⟨fun v _ h => (by cases h), hrest⟩

lemma Bared.kept (h : Bared ts us)
    (hus : ∀ body, '"' :: (body ++ ['"']) ∈ us → Untouched body) : ∀ w ∈ us, Kept w := by
  have hspelled {w : List Char} {t : Json.Token} (hw : Spells w t)
      (hw' : ∀ body, '"' :: (body ++ ['"']) = w → Untouched body) : Kept w := by
    cases hw.shape with
    | mark hmark => exact .mark (Json.isMark_of_mark? hmark)
    | bare hbare _ => exact .bare hbare
    | literal hbody => exact .literal hbody (hw' _ rfl)
  induction h with
  | nil => simp
  | word hw _ ih =>
    refine List.forall_mem_cons.2 ⟨hspelled hw fun body hbody => hus body (by simp [hbody]), ?_⟩
    exact ih fun body hbody => hus body (by simp [hbody])
  | key hmark _ hname _ ih =>
    refine List.forall_mem_cons.2 ⟨hspelled hmark fun body hbody => hus body (by simp [hbody]),
      List.forall_mem_cons.2 ⟨.key hname, List.forall_mem_cons.2 ⟨.mark (by decide), ?_⟩⟩⟩
    exact ih fun body hbody => hus body (by simp [hbody])

/-- Made into JSON a rendering has its own tokens. -/
lemma inJson_rendering {v : Value} (hvs : Renders v vs) (ht : Spaced vs t)
    (hbodies : ∀ body, '"' :: (body ++ ['"']) ∈ vs → Untouched body) :
    ∃ ws, List.Forall₂ Spells ws v.tokens ∧ Spaced ws (inJson t) := by
  obtain ⟨us, hb, htrailing⟩ := hvs
  have hkept : ∀ w ∈ us, Kept w := hb.kept fun body hbody => hbodies body (htrailing.subset hbody)
  have hkept' : ∀ w ∈ vs, Kept w := fun w hw => by
    rcases htrailing.mem_or hw with hw | rfl
    · exact hkept w hw
    · exact .mark (by decide)
  have hquotes : (t.map fun c => if c == '\'' then '"' else c) = t := by
    refine (List.map_congr_left fun c hc => ?_).trans t.map_id
    refine if_neg fun hquote => apostrophe_of_spaced ht hkept' ?_
    rwa [← beq_iff_eq.1 hquote]
  have hcommas := dropCommas_spaced htrailing ht hkept' (hb.full v.meets_tokens)
  rw [inJson, hquotes]
  exact quoteKeys_spaced hb hcommas v.meets_tokens hkept

end

/-! ### Contents of string literals -/

lemma untouched_nil : Untouched [] where
  apostrophe := by simp
  comma g c _ _ h := by cases List.infix_nil.1 h
  key c g name g' _ _ _ _ h := by cases List.infix_nil.1 h

lemma untouched_cons_iff {c : Char} {s : List Char} :
    Untouched (c :: s) ↔
      c ≠ '\'' ∧ (c = ',' → closes s = false) ∧ (c = '\x7b' ∨ c = ',' → bareKey? s = none) ∧
        Untouched s := by
  constructor
  · intro h
    have hwhole {l : List Char} (hl : l <:+: s) : l <:+: c :: s :=
      hl.trans (List.suffix_cons c s).isInfix
    refine ⟨fun hc => h.apostrophe (by simp [hc]), fun hc => ?_, fun hc => ?_, ?_⟩
    · rw [Bool.eq_false_iff]
      intro hcloses
      obtain ⟨g, d, hg, hd, hprefix⟩ := closes_iff.1 hcloses
      exact h.comma g d hg hd (List.cons_prefix_cons.2 ⟨hc.symm, hprefix⟩).isInfix
    · by_contra hkey
      obtain ⟨g, name, g', hg, hname, hg', hprefix⟩ := bareKey?_ne_none_iff.1 hkey
      exact h.key c g name g' hc hg hname hg' (List.cons_prefix_cons.2 ⟨rfl, hprefix⟩).isInfix
    · exact ⟨fun hmem => h.apostrophe (List.mem_cons_of_mem c hmem),
        fun g d hg hd hl => h.comma g d hg hd (hwhole hl),
        fun d g name g' hd hg hname hg' hl => h.key d g name g' hd hg hname hg' (hwhole hl)⟩
  · rintro ⟨hquote, hcomma, hkey, h⟩
    refine ⟨?_, fun g d hg hd hl => ?_, fun d g name g' hd hg hname hg' hl => ?_⟩
    · rw [List.mem_cons, not_or]
      exact ⟨Ne.symm hquote, h.apostrophe⟩
    · rcases List.infix_cons_iff.1 hl with hprefix | hl
      · obtain ⟨hc, hbehind⟩ := List.cons_prefix_cons.1 hprefix
        exact absurd (closes_iff.2 ⟨g, d, hg, hd, hbehind⟩) (by simp [hcomma hc.symm])
      · exact h.comma g d hg hd hl
    · rcases List.infix_cons_iff.1 hl with hprefix | hl
      · obtain ⟨rfl, hbehind⟩ := List.cons_prefix_cons.1 hprefix
        exact bareKey?_ne_none_iff.2 ⟨g, name, g', hg, hname, hg', hbehind⟩ (hkey hd)
      · exact h.key d g name g' hd hg hname hg' hl

instance decidableUntouched : DecidablePred Untouched
  | [] => .isTrue untouched_nil
  | _ :: s =>
    have := decidableUntouched s
    decidable_of_iff _ untouched_cons_iff.symm

/-! ### Both readings -/

section

variable {u v : Value} {vs : List (List Char)} {t : List Char}

/-- A rendering in which nothing is rewritten has the value of what it writes, by one reading or the
other. -/
lemma literalValue?_untouched (hvs : Renders u vs) (ht : Spaced vs t)
    (hbodies : ∀ body, '"' :: (body ++ ['"']) ∈ vs → Untouched body) :
    literalValue? t = (Json.Term.ofValue u).value? Json.depthLimit := by
  obtain ⟨ws, hws, hspaced⟩ := inJson_rendering hvs ht hbodies
  rw [literalValue?, ofText?_of_spells hws hspaced]
  cases hfirst : Value.ofText? (.ofList t) with
  | none => rfl
  | some w => rw [Option.some_or, value?_of_read hvs ht hfirst]

/-- **Literals are read as the values they write**: let a text write a value in the manner of
scripts. If it is JSON and not nested too deep, it is read as the value. If there is nothing in its
string literals that is rewritten, it is read as the value where it is not nested too deep, and not
read where it is. -/
theorem literal_read_as_written (hmeans : (Json.Term.ofValue u).Means v) (hvs : Renders u vs)
    (ht : Spaced vs t) :
    (List.Forall₂ Spells vs u.tokens → (Json.Term.ofValue u).depth ≤ Json.depthLimit →
      literalValue? t = some v) ∧
    ((∀ body, '"' :: (body ++ ['"']) ∈ vs → Untouched body) →
      literalValue? t =
        if (Json.Term.ofValue u).depth ≤ Json.depthLimit then some v else none) := by
  refine ⟨fun hspells hdepth => ?_, fun hbodies => ?_⟩
  · rw [literalValue?, ofText?_of_spells hspells ht, hmeans.value? hdepth, Option.some_or]
  · rw [literalValue?_untouched hvs ht hbodies]
    split
    · next hdepth => exact hmeans.value? hdepth
    · next hdeep =>
      refine Option.eq_none_iff_forall_ne_some.2 fun w hw => ?_
      exact hdeep (Json.Term.depth_le_of_value? _ hw)

end

/-- A list of one text. -/
def oneText (s : String) : Value := .object [("a", .array [.string s])]

/-- The list by a key without quotes. -/
def bareWords (s : String) : List (List Char) :=
  [['\x7b'], ['a'], [':'], ['['], Json.quote s, [']'], ['\x7d']]

/-- The list by a key without quotes, with commas behind the text and the list. -/
def commaWords (s : String) : List (List Char) :=
  [['\x7b'], ['a'], [':'], ['['], Json.quote s, [','], [']'], [','], ['\x7d']]

section

variable (s : String)

lemma bared_oneText : Bared (oneText s).tokens (bareWords s) := by
  have hname : IsKey ['a'] := .mk (by decide) (by simp)
  have htext : Spells (Json.quote s) (.text (some s)) :=
    Json.Token.spells_print (t := .text (some s)) rfl fun _ h => by cases h
  exact .key (spells_mark rfl) (.inl rfl) hname
    (.word (spells_mark rfl) (.word htext (.word (spells_mark rfl) (.word (spells_mark rfl) .nil))))

lemma trailing_oneText : Trailing EndsPart [] (bareWords s) (commaWords s) := by
  refine .keep (.keep (.keep (.keep (.keep ?_))))
  have htext : EndsPart (Json.quote s) := by simp [EndsPart, Json.quote]
  exact .comma htext (.inl rfl) (.comma (by simp [EndsPart]) (.inr rfl) .nil)

lemma spells_oneText : List.Forall₂ Spells (oneText s).words (oneText s).tokens := by
  have hnumber : ∀ n, Json.Token.number n ∉ (oneText s).tokens := by
    simp [oneText, Value.tokens, Json.membersTokens, Json.itemsTokens]
  exact Value.spells_words (fun _ h => absurd h (hnumber _)) fun _ h => absurd h (hnumber _)

end

theorem one_text_read_as_written :
    literalValue? "\x7b\"a\":[\"it's ,]\"]\x7d".toList = some (oneText "it's ,]") ∧
      literalValue? "\x7ba:[\"x, y\",],\x7d".toList = some (oneText "x, y") := by
  have hmeans (s : String) : (Json.Term.ofValue (oneText s)).Means (oneText s) :=
    Value.means_ofValue rfl
  have hstrict : "\x7b\"a\":[\"it's ,]\"]\x7d".toList = (oneText "it's ,]").words.flatten := by
    decide
  have hlenient : "\x7ba:[\"x, y\",],\x7d".toList = (commaWords "x, y").flatten := by decide
  rw [hstrict, hlenient]
  constructor
  · have hspells := spells_oneText "it's ,]"
    exact (literal_read_as_written (hmeans _) ⟨_, bared_of_spells hspells, .refl _⟩
      (Json.spaced_flatten _)).1 hspells (by decide)
  · have hread := (literal_read_as_written (hmeans _) ⟨_, bared_oneText "x, y", trailing_oneText _⟩
      (Json.spaced_flatten _)).2 fun body hbody => ?_
    · rwa [if_pos (by decide)] at hread
    · have hends : body ++ ['"'] = "x, y".toList.flatMap Json.escape ++ ['"'] := by
        simpa [commaWords, Json.quote] using hbody
      rw [List.append_cancel_right hends]
      decide

/-- So many lists in each other. -/
def nested : Nat → Value
  | 0 => .null
  | n + 1 => .array [nested n]

lemma depth_nested (n : Nat) : (Json.Term.ofValue (nested n)).depth = n := by
  induction n with
  | zero => rfl
  | succ n ih =>
    simp [nested, Json.Term.ofValue, Json.ofItems, Json.Term.depth, Json.itemsDepth, ih]

lemma renders_nested (n : Nat) : Renders (nested n) (nested n).words := by
  have hnumber : ∀ m, Json.Token.number m ∉ (nested n).tokens := by
    intro m
    induction n with
    | zero => simp [nested, Value.tokens]
    | succ n ih => simp [nested, Value.tokens, Json.itemsTokens, ih]
  have hspells : List.Forall₂ Spells (nested n).words (nested n).tokens :=
    Value.spells_words (fun _ h => absurd h (hnumber _)) fun _ h => absurd h (hnumber _)
  exact ⟨_, bared_of_spells hspells, .refl _⟩

lemma literalValue?_nested : literalValue? (nested 128).words.flatten = none := by
  have hplain : ∀ w ∈ (nested 128).words, w.head? ≠ some '"' := by decide +kernel
  rw [literalValue?_untouched (renders_nested 128) (Json.spaced_flatten _)
    fun _ hbody => absurd rfl (hplain _ hbody)]
  refine Option.eq_none_iff_forall_ne_some.2 fun v hv => ?_
  have hdepth := Json.Term.depth_le_of_value? _ hv
  rw [depth_nested] at hdepth
  exact absurd hdepth (by decide)

/-- Not every literal is read as the value that it writes: lists may be nested too deep, the digits
of a number may be read as a number next to it, and what stands in a text may be rewritten. -/
theorem literal_not_read_as_written :
    (Renders (nested 128) (nested 128).words ∧ literalValue? (nested 128).words.flatten = none) ∧
    (literalValue? "[1e-23]".toList).map Value.render = some "[1.0000000000000001e-23]".toList ∧
    (Renders (oneText ",]") (bareWords ",]") ∧
      (literalValue? (bareWords ",]").flatten).map Value.render = some (oneText "]").render) := by
  refine ⟨⟨renders_nested 128, literalValue?_nested⟩, ?_, ⟨_, bared_oneText ",]", .refl _⟩, ?_⟩
  · decide +kernel
  · decide +kernel

end Estate.Script
