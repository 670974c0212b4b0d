import Estate.Proofs.Json.Accepted
import Estate.Script.Scan

/-!
What brackets cut off a text.

The search for the bracket that closes the first one goes over the words of a JSON text as over
their tokens: only brackets outside of strings count. So it ends with the array or object that it
starts with, however deep that is nested and whatever follows.
-/

namespace Estate.Json

/-- Arrays and objects. -/
def Term.IsCompound : Term → Prop
  | .array _ => True
  | .object _ => True
  | _ => False

end Estate.Json

namespace Estate.Script

open Json (Term Spells Spaced Blanks Quotable joinParts itemParts memberParts)

/-! ### The search for the closing bracket -/

section

variable {n : Nesting} {cs literal : List Char}

/-- What is done at a character does not depend on what follows. -/
lemma balancedFrom_cons (n : Nesting) (c : Char) :
    (∀ cs, balancedFrom n (c :: cs) = none) ∨ (∀ cs, balancedFrom n (c :: cs) = some [c]) ∨
      ∃ m, ∀ cs, balancedFrom n (c :: cs) = (balancedFrom m cs).map (c :: ·) := by
  obtain ⟨depth, quote, escaped⟩ := n
  cases quote with
  | some q =>
    refine .inr (.inr ?_)
    by_cases hescaped : escaped = true
    · exact ⟨⟨depth, some q, false⟩, fun cs => by simp [balancedFrom, hescaped]⟩
    · by_cases hback : c = '\\'
      · exact ⟨⟨depth, some q, true⟩, fun cs => by simp [balancedFrom, hescaped, hback]⟩
      · by_cases hclose : c = q
        · subst hclose
          exact ⟨⟨depth, none, escaped⟩, fun cs => by simp [balancedFrom, hescaped, hback]⟩
        · exact ⟨⟨depth, some q, escaped⟩, fun cs => by
            simp [balancedFrom, hescaped, hback, hclose]⟩
  | none =>
    by_cases hquote : c = '"' ∨ c = '\'' ∨ c = '`'
    · exact .inr (.inr ⟨⟨depth, some c, escaped⟩, fun cs => by
        simp [balancedFrom, hquote, or_assoc]⟩)
    · by_cases hopen : c = '\x7b' ∨ c = '['
      · exact .inr (.inr ⟨⟨depth + 1, none, escaped⟩, fun cs => by
          simp [balancedFrom, hquote, hopen, or_assoc]⟩)
      · by_cases hclose : c = '\x7d' ∨ c = ']'
        · match depth with
          | 0 => exact .inl fun cs => by simp [balancedFrom, hquote, hopen, hclose, or_assoc]
          | 1 => exact .inr (.inl fun cs => by simp [balancedFrom, hquote, hopen, hclose, or_assoc])
          | d + 2 => exact .inr (.inr ⟨⟨d + 1, none, escaped⟩, fun cs => by
              simp [balancedFrom, hquote, hopen, hclose, or_assoc]⟩)
        · exact .inr (.inr ⟨⟨depth, none, escaped⟩, fun cs => by
            simp [balancedFrom, hquote, hopen, hclose, or_assoc]⟩)

lemma isPrefix_of_balancedFrom (h : balancedFrom n cs = some literal) :
    literal ≠ [] ∧ literal <+: cs := by
  induction cs generalizing n literal with
  | nil => cases h
  | cons c cs ih =>
    rcases balancedFrom_cons n c with hstop | hclose | ⟨m, hgo⟩
    · rw [hstop] at h
      cases h
    · rw [hclose] at h
      cases h
      exact ⟨by simp, cs, rfl⟩
    · rw [hgo] at h
      obtain ⟨inner, hinner, rfl⟩ := Option.map_eq_some_iff.1 h
      exact ⟨by simp, List.cons_prefix_cons.2 ⟨rfl, (ih hinner).2⟩⟩

/-- What is cut off is cut off whatever follows. -/
lemma balancedFrom_append (h : balancedFrom n cs = some literal) (rest : List Char) :
    balancedFrom n (cs ++ rest) = some literal := by
  induction cs generalizing n literal with
  | nil => cases h
  | cons c cs ih =>
    rw [List.cons_append]
    rcases balancedFrom_cons n c with hstop | hclose | ⟨m, hgo⟩
    · rw [hstop] at h
      cases h
    · rw [hclose] at h ⊢
      exact h
    · rw [hgo] at h ⊢
      obtain ⟨inner, hinner, rfl⟩ := Option.map_eq_some_iff.1 h
      rw [ih hinner, Option.map_some]

/-- Nothing is cut off a text that stops short of the closing bracket. -/
lemma balanced?_start (h : balanced? literal = some literal) {start : List Char}
    (hstart : start <+: literal) (hne : start ≠ literal) : balanced? start = none := by
  refine Option.eq_none_iff_forall_ne_some.2 fun cut hcut => hne ?_
  obtain ⟨rest, rfl⟩ := hstart
  have hwhole : balanced? (start ++ rest) = some cut := balancedFrom_append hcut rest
  obtain rfl : start ++ rest = cut := Option.some.inj (h.symm.trans hwhole)
  have hlength := (isPrefix_of_balancedFrom hcut).2.length_le
  rw [List.length_append] at hlength
  have hrest : rest = [] := List.length_eq_zero_iff.1 (by omega)
  rw [hrest, List.append_nil]

end

/-! ### Words and their tokens -/

/-- The search for the closing bracket goes over the text. -/
def Passes (n m : Nesting) (s : List Char) : Prop :=
  ∀ rest, balancedFrom n (s ++ rest) = (balancedFrom m rest).map (s ++ ·)

/-- So many brackets are open, and no quote. -/
def outside (depth : Nat) : Nesting := ⟨depth, none, false⟩

def between (depth : Nat) : Nesting := ⟨depth, some '"', false⟩

section

variable {n m k : Nesting} {s t : List Char} {d d' : Nat}

lemma passes_nil (n : Nesting) : Passes n n [] := fun rest => by simp

lemma Passes.append (h : Passes n m s) (h' : Passes m k t) : Passes n k (s ++ t) := by
  intro rest
  rw [List.append_assoc, h, h', Option.map_map]
  congr 1
  funext behind
  simp

lemma Passes.cons {c : Char} (h : ∀ cs, balancedFrom n (c :: cs) = (balancedFrom m cs).map (c :: ·))
    (h' : Passes m k s) : Passes n k (c :: s) :=
  Passes.append (s := [c]) h h'

/-- Any other character than brackets and quotes. -/
def IsInert (c : Char) : Prop := c ∉ ['"', '\'', '`', '\x7b', '[', '\x7d', ']']

lemma passes_inert (h : ∀ c ∈ s, IsInert c) : Passes (outside d) (outside d) s := by
  induction s with
  | nil => exact passes_nil _
  | cons c s ih =>
    have hc := h c (by simp)
    simp only [IsInert, List.mem_cons, List.not_mem_nil, or_false, not_or] at hc
    refine .cons (fun cs => ?_) (ih fun e he => h e (by simp [he]))
    simp [balancedFrom, outside, hc]

lemma passes_quotable {body : List Char} (h : Quotable body) :
    Passes (between d) (outside d) (body ++ ['"']) := by
  induction h with
  | nil => exact .cons (fun cs => by simp [balancedFrom, between, outside]) (passes_nil _)
  | plain hq hb _ ih => exact .cons (fun cs => by simp [balancedFrom, between, hq, hb]) ih
  | escaped c _ ih =>
    refine .cons (m := ⟨d, some '"', true⟩) (fun cs => ?_) (.cons (fun cs => ?_) ih)
    · simp [balancedFrom, between]
    · simp [balancedFrom, between]

/-- How many brackets are open behind a token. There has to be one at any time. -/
def level (d : Nat) : Json.Token → Option Nat
  | .openBrace | .openBracket => some (d + 1)
  | .closeBrace | .closeBracket => if d < 2 then none else some (d - 1)
  | _ => some d

lemma isInert_of_isBare {c : Char} (h : Json.isBare c) : IsInert c := by
  intro hc
  simp only [List.mem_cons, List.not_mem_nil, or_false] at hc
  rcases hc with rfl | rfl | rfl | rfl | rfl | rfl | rfl <;> exact absurd h (by decide)

lemma isInert_of_isGap {c : Char} (h : Json.isGap c) : IsInert c := by
  intro hc
  simp only [List.mem_cons, List.not_mem_nil, or_false] at hc
  rcases hc with rfl | rfl | rfl | rfl | rfl | rfl | rfl <;> exact absurd h (by decide)

lemma passes_mark {tok : Json.Token} {c : Char} (h : tok.mark? = some c)
    (hlevel : level d tok = some d') : Passes (outside d) (outside d') [c] := by
  cases tok <;> cases h
  case openBrace | openBracket =>
    cases hlevel
    exact .cons (fun cs => by simp [balancedFrom, outside]) (passes_nil _)
  case closeBrace | closeBracket =>
    rw [level] at hlevel
    split at hlevel
    · cases hlevel
    · next hd =>
      cases hlevel
      obtain ⟨e, rfl⟩ := Nat.exists_eq_add_of_le' (show 2 ≤ d by omega)
      exact .cons (fun cs => by simp [balancedFrom, outside]) (passes_nil _)
  case colon | comma =>
    cases hlevel
    exact passes_inert (by simp [IsInert])

lemma passes_word {w : List Char} {tok : Json.Token} (h : Json.Shaped w tok)
    (hlevel : level d tok = some d') : Passes (outside d) (outside d') w := by
  cases h with
  | mark hmark => exact passes_mark hmark hlevel
  | bare hw hatomic =>
    obtain rfl : d = d' := by
      cases tok <;> cases hatomic <;> cases hlevel <;> rfl
    exact passes_inert fun c hc => isInert_of_isBare (hw.2 c hc)
  | literal hbody =>
    cases hlevel
    exact .cons (m := between d) (fun cs => by simp [balancedFrom, between, outside])
      (passes_quotable hbody)

/-- The search goes over words as their tokens open and close brackets. -/
lemma passes_spaced {ws : List (List Char)} {toks : List Json.Token} (hs : Spaced ws s)
    (h : List.Forall₂ Spells ws toks) (hlevel : toks.foldlM level d = some d') :
    Passes (outside d) (outside d') s := by
  induction hs generalizing toks d with
  | last hg =>
    cases h
    cases hlevel
    exact passes_inert fun c hc => isInert_of_isGap (hg c hc)
  | word hg _ ih =>
    cases h with
    | cons hw hws =>
      rw [List.foldlM_cons] at hlevel
      obtain ⟨e, he, hlevel⟩ := Option.bind_eq_some_iff.1 hlevel
      have hblanks : Passes (outside d) (outside d) _ :=
        passes_inert fun c hc => isInert_of_isGap (hg c hc)
      exact hblanks.append ((passes_word hw.shape he).append (ih hws hlevel))

end

/-- As many brackets are open behind the tokens as before them. -/
def Balanced (toks : List Json.Token) : Prop := ∀ d, toks.foldlM level (d + 1) = some (d + 1)

lemma balanced_joinParts {parts : List (List Json.Token)} (h : ∀ p ∈ parts, Balanced p) :
    Balanced (joinParts parts) := by
  intro d
  match parts with
  | [] => rfl
  | [p] => exact h p (by simp) d
  | p :: q :: rest =>
    have hp : Balanced p := h p (by simp)
    have hrest : Balanced (joinParts (q :: rest)) :=
      balanced_joinParts fun r hr => h r (List.mem_cons_of_mem p hr)
    simp [joinParts, level, hp d, hrest d]

mutual

theorem balanced_tokens (t : Term) : Balanced t.tokens := by
  intro d
  cases t with
  | array items =>
    have hitems := balanced_joinParts (balanced_itemParts items) (d + 1)
    simp [Term.tokens, level, hitems]
  | object ms =>
    have hmembers := balanced_joinParts (balanced_memberParts ms) (d + 1)
    simp [Term.tokens, level, hmembers]
  | _ => rfl

theorem balanced_itemParts (items : List Term) : ∀ p ∈ itemParts items, Balanced p := by
  match items with
  | [] => simp [itemParts]
  | t :: rest =>
    rw [itemParts]
    exact List.forall_mem_cons.2 ⟨balanced_tokens t, balanced_itemParts rest⟩

theorem balanced_memberParts (ms : List (Option String × Term)) :
    ∀ p ∈ memberParts ms, Balanced p := by
  match ms with
  | [] => simp [memberParts]
  | (k, t) :: rest =>
    rw [memberParts]
    refine List.forall_mem_cons.2 ⟨fun d => ?_, balanced_memberParts rest⟩
    have ht := balanced_tokens t d
    simp [level, ht]

end

/-- An array or object is in brackets, and brackets in it are closed in it. -/
lemma exists_enclosed {t : Term} (h : t.IsCompound) :
    ∃ first inner last c c', t.tokens = first :: (inner ++ [last]) ∧
      first.mark? = some c ∧ (c = '[' ∨ c = '\x7b') ∧
      last.mark? = some c' ∧ (c' = ']' ∨ c' = '\x7d') ∧ inner.foldlM level 1 = some 1 := by
  cases t with
  | array items =>
    exact ⟨_, _, _, '[', ']', by rw [Term.tokens], rfl, .inl rfl, rfl, .inl rfl,
      balanced_joinParts (balanced_itemParts items) 0⟩
  | object ms =>
    exact ⟨_, _, _, '\x7b', '\x7d', by rw [Term.tokens], rfl, .inr rfl, rfl, .inr rfl,
      balanced_joinParts (balanced_memberParts ms) 0⟩
  | _ => cases h

/-! ### Literals -/

/-- The last word of a text, with blanks behind it. -/
lemma exists_last_word {ws : List (List Char)} {s : List Char} {toks : List Json.Token}
    {tok : Json.Token} (hs : Spaced ws s) (h : List.Forall₂ Spells ws (toks ++ [tok])) :
    ∃ us u t g, ws = us ++ [u] ∧ List.Forall₂ Spells us toks ∧ Spells u tok ∧
      s = t ++ (u ++ g) ∧ Spaced us t ∧ Blanks g := by
  induction toks generalizing ws s with
  | nil =>
    cases h with
    | @cons u _ _ _ hu hnil =>
      cases hnil
      cases hs with
      | @word g _ s _ hg hs =>
        cases hs with
        | last hend => exact ⟨[], u, g, s, rfl, .nil, hu, rfl, .last hg, hend⟩
  | cons first toks ih =>
    cases h with
    | @cons w _ _ _ hfirst h =>
      cases hs with
      | @word g _ s ws hg hs =>
        obtain ⟨us, u, t, g', rfl, hus, hu, rfl, ht, hg'⟩ := ih hs h
        exact ⟨w :: us, u, g ++ (w ++ t), g', rfl, .cons hfirst hus, hu, by simp, .word hg ht, hg'⟩

lemma spaced_concat {ws : List (List Char)} {s w : List Char} (hs : Spaced ws s) :
    Spaced (ws ++ [w]) (s ++ w) := by
  induction hs with
  | @last g hg =>
    have h : Spaced [w] (g ++ (w ++ [])) := .word hg (.last fun c hc => by cases hc)
    rwa [List.append_nil] at h
  | @word g u s ws hg _ ih =>
    rw [List.append_assoc, List.append_assoc]
    exact .word hg ih

/-- The first literal in a text goes up to the bracket that closes its first one. -/
lemma balanced?_enclosed {c c' : Char} {s : List Char} (hc : c = '[' ∨ c = '\x7b')
    (hc' : c' = ']' ∨ c' = '\x7d') (hs : Passes (outside 1) (outside 1) s) (rest : List Char) :
    balanced? (c :: (s ++ c' :: rest)) = some (c :: (s ++ [c'])) := by
  have hopen : balanced? (c :: (s ++ c' :: rest)) =
      (balancedFrom (outside 1) (s ++ c' :: rest)).map (c :: ·) := by
    rcases hc with rfl | rfl <;> simp [balanced?, balancedFrom, outside]
  have hclose : balancedFrom (outside 1) (c' :: rest) = some [c'] := by
    rcases hc' with rfl | rfl <;> simp [balancedFrom, outside]
  rw [hopen, hs, hclose]
  rfl

/-- A text from a bracket to the one that closes it. -/
structure Bracketed (literal : List Char) : Prop where
  opens : ∃ c cs, literal = c :: cs ∧ (c = '[' ∨ c = '\x7b')
  closes : ∃ c cs, literal = cs ++ [c] ∧ (c = ']' ∨ c = '\x7d')
  cut : ∀ rest, balanced? (literal ++ rest) = some literal

/-- The text of an array or object is in brackets, blanks around it apart. -/
lemma exists_bracketed {ws : List (List Char)} {text : List Char} {t : Term} (ht : t.IsCompound)
    (hws : List.Forall₂ Spells ws t.tokens) (hs : Spaced ws text) :
    ∃ g core g', text = g ++ (core ++ g') ∧ Blanks g ∧ Blanks g' ∧ Bracketed core ∧
      Spaced ws core := by
  obtain ⟨first, inner, last, c, c', htokens, hfirst, hc, hlast, hc', hlevel⟩ := exists_enclosed ht
  rw [htokens] at hws
  cases hws with
  | @cons w₁ _ ws _ hw₁ hws =>
    cases hs with
    | @word g _ s _ hg hs =>
      obtain ⟨us, w₂, t, g', rfl, hus, hw₂, rfl, ht, hg'⟩ := exists_last_word hs hws
      obtain rfl : w₁ = [c] := hw₁.shape.eq_mark hfirst
      obtain rfl : w₂ = [c'] := hw₂.shape.eq_mark hlast
      have hcut (rest : List Char) :
          balanced? (c :: (t ++ [c']) ++ rest) = some (c :: (t ++ [c'])) := by
        have hbalanced := balanced?_enclosed hc hc' (passes_spaced ht hus hlevel) rest
        rw [List.cons_append, List.append_assoc]
        exact hbalanced
      have hcore : Spaced ([c] :: (us ++ [[c']])) (c :: (t ++ [c'])) :=
        .word (g := []) (fun d hd => by cases hd) (spaced_concat ht)
      have hbracketed : Bracketed (c :: (t ++ [c'])) :=
        ⟨⟨c, _, rfl, hc⟩, ⟨c', c :: t, rfl, hc'⟩, hcut⟩
      exact ⟨g, c :: (t ++ [c']), g', by simp, hg, hg', hbracketed, hcore⟩

/-- A text with nothing but blanks behind it is told by its last character. -/
lemma eq_of_blanks_behind {a b g g' : List Char} (h : a ++ g = b ++ g') (hg : Blanks g)
    (hg' : Blanks g') (ha : ∀ c ∈ a.getLast?, Json.isGap c = false)
    (hb : ∀ c ∈ b.getLast?, Json.isGap c = false) : a = b := by
  have hlast {a b x : List Char} (hsplit : a = b ++ x) (hx : Blanks x)
      (ha : ∀ c ∈ a.getLast?, Json.isGap c = false) : a = b := by
    subst hsplit
    rcases List.eq_nil_or_concat x with rfl | ⟨y, c, rfl⟩
    · rw [List.append_nil]
    · have hgap : Json.isGap c = true := hx c (by simp)
      have hno : Json.isGap c = false := ha c (by simp)
      rw [hgap] at hno
      cases hno
  rcases List.append_eq_append_iff.1 h with ⟨x, hx, rfl⟩ | ⟨x, hx, rfl⟩
  · exact (hlast hx (fun c hc => hg c (by simp [hc])) hb).symm
  · exact hlast hx (fun c hc => hg' c (by simp [hc])) ha

/-- **Brackets cut off one literal**: of a JSON text of an array or object with any text behind it,
the brackets cut off what goes up to its last bracket, however deep it is nested and whatever its
strings hold, and nothing of any text that stops before that bracket. -/
theorem cut_off_by_brackets {literal g : List Char} {t : Term}
    (hread : Term.ofText? (.ofList (literal ++ g)) = some t) (ht : t.IsCompound) (hg : Blanks g)
    (hlast : ∀ c ∈ literal.getLast?, Json.isGap c = false) :
    (∀ rest, balanced? (literal ++ rest) = some literal) ∧
      ∀ start, start <+: literal → start ≠ literal → balanced? start = none := by
  obtain ⟨toks, htoks, hterm⟩ := Option.bind_eq_some_iff.1 hread
  rw [String.toList_ofList] at htoks
  obtain ⟨ws, hws, hs⟩ := Json.exists_words htoks
  rw [Json.tokens_of_ofTokens? hterm] at hws
  obtain ⟨before, core, g', hsplit, hbefore, hg', hcore, -⟩ := exists_bracketed ht hws hs
  have hcoreLast : ∀ c ∈ (before ++ core).getLast?, Json.isGap c = false := by
    obtain ⟨c, cs, hcs, hc⟩ := hcore.closes
    rw [hcs, ← List.append_assoc, List.getLast?_concat]
    rintro d ⟨⟩
    rcases hc with rfl | rfl <;> rfl
  rw [← List.append_assoc] at hsplit
  obtain rfl : literal = before ++ core :=
    eq_of_blanks_behind hsplit hg hg' hlast hcoreLast
  have hblanks : Passes (outside 0) (outside 0) before :=
    passes_inert fun c hc => isInert_of_isGap (hbefore c hc)
  have hcut (rest : List Char) : balanced? (before ++ core ++ rest) = some (before ++ core) := by
    have hinner : balancedFrom (outside 0) (core ++ rest) = some core := hcore.cut rest
    have hwhole : balancedFrom (outside 0) (before ++ (core ++ rest)) = some (before ++ core) := by
      rw [hblanks, hinner, Option.map_some]
    rw [List.append_assoc]
    exact hwhole
  have hself : balanced? (before ++ core) = some (before ++ core) := by
    have h := hcut []
    rwa [List.append_nil] at h
  exact ⟨hcut, fun start hstart hne => balanced?_start hself hstart hne⟩

/-- An escaped quote and an escaped backslash at the ends of strings with brackets in them. -/
def escapes : String := "\x7b\"a\": \"]\\\\\", \"b\": [\"\\\"\x7d\"]\x7d"

theorem cut_off_by_brackets_escapes :
    Term.ofText? escapes = some (.object
        [(some "a", .text (some "]\\")), (some "b", .array [.text (some "\"\x7d")])]) ∧
      balanced? (escapes.toList ++ "; \x7d".toList) = some escapes.toList ∧
      balanced? (escapes.toList.take 23) = none := by
  have hread : Term.ofText? (.ofList (escapes.toList ++ [])) = some (.object
      [(some "a", .text (some "]\\")), (some "b", .array [.text (some "\"\x7d")])]) := by
    rw [Term.ofText?, String.toList_ofList]
    rfl
  have hlast : ∀ c ∈ escapes.toList.getLast?, Json.isGap c = false := by
    rintro c ⟨⟩
    rfl
  obtain ⟨hcut, hstart⟩ := cut_off_by_brackets hread trivial (by simp [Blanks]) hlast
  refine ⟨?_, hcut _, hstart _ (List.take_prefix _ _) (by decide +kernel)⟩
  rw [List.append_nil, String.ofList_toList] at hread
  exact hread

end Estate.Script
