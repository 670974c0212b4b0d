import Estate.Proofs.Json.Assembly
import Estate.Proofs.Json.Atoms
import Estate.Proofs.Script.Places
import Estate.Proofs.Script.Texts

/-!
The tokens of JSON texts, read in a script. They are the same but for negative numbers, of which a
script reads the sign by itself.
-/

namespace Estate.Script

open Json (Spells Spaced Blanks Bare)

/-- The integers that every double can tell apart, and all that is no number. -/
def Whole : Json.Token → Prop
  | .number n => ∃ i, n = some (.int i) ∧ i.natAbs ≤ 2 ^ 53
  | .text s => s.isSome
  | _ => True

instance : DecidablePred Whole := fun t =>
  match t with
  | .number none => isFalse (by simp [Whole])
  | .number (some (.float _)) => isFalse (by simp [Whole])
  | .number (some (.int i)) =>
    decidable_of_iff (i.natAbs ≤ 2 ^ 53) (by simp [Whole])
  | .text s => inferInstanceAs (Decidable (s.isSome = true))
  | .openBrace | .closeBrace | .openBracket | .closeBracket | .colon | .comma | .null | .bool _ =>
    isTrue trivial

/-- The tokens of a script for a token of JSON. -/
def tokensOf : Json.Token → List Token
  | .openBrace => [.sign "\x7b"]
  | .closeBrace => [.sign "\x7d"]
  | .openBracket => [.sign "["]
  | .closeBracket => [.sign "]"]
  | .colon => [.sign ":"]
  | .comma => [.sign ","]
  | .null => [.word "null"]
  | .bool b => [.word (toString b)]
  | .number (some (.int n)) =>
    if n < 0 then [.sign "-", .number (ofNat? n.natAbs)] else [.number (ofNat? n.natAbs)]
  | .number _ => [.fault]
  | .text s => [.text s]

/-- What may stand behind a bare word does not belong to it. -/
lemma not_part_of_break {c : Char} (h : IsBreak c) : isNamePart c = false ∧ c ≠ '\\' := by
  have hpart := forall_break (p := fun c => !(isNamePart c || c == '\\')) (by decide) h
  simpa using hpart

section

variable {rest : List Char}

/-- A keyword is a name to the reader of tokens. -/
lemma stands_keyword {c : Char} {w : List Char} (hc : isNameStart c) (hw : w.all isNamePart = true)
    (hrest : ∀ c ∈ rest.head?, IsBreak c) (fresh : Bool) :
    Stands [.word (.ofList (c :: w))] (Cursor.at fresh (c :: w ++ rest)) (Cursor.at false rest) :=
  stands_name hc (List.all_eq_true.1 hw) (fun d hd => not_part_of_break (hrest d hd)) fresh

lemma stands_whole {ds : List Char} (h : Json.Numeral ds) (hvalue : Text.digitsValue ds ≤ 2 ^ 53)
    (hrest : ∀ c ∈ rest.head?, IsBreak c) (fresh : Bool) :
    Stands [.number (ofNat? (Text.digitsValue ds))] (Cursor.at fresh (ds ++ rest))
      (Cursor.at false rest) := by
  have htoken := tokenAt_whole h hvalue hrest
  obtain ⟨d, ds, rfl⟩ := List.exists_cons_of_ne_nil h.filled
  have hstart := forall_digit (p := fun c => !isLineEnd c && !isSpace c && c != '/' && c != '<' &&
    c != '-') (by decide) (h.digits d (by simp))
  simp only [Bool.and_eq_true, Bool.not_eq_true', bne_iff_ne] at hstart
  obtain ⟨⟨⟨⟨hline, hspace⟩, hslash⟩, hangle⟩, hdash⟩ := hstart
  have hstands : Stands [.number (ofNat? (Text.digitsValue (d :: ds)))]
      (Cursor.at fresh (d :: ds ++ rest))
      (Cursor.at false ((d :: ds ++ rest).drop (d :: ds).length)) :=
    stands_one ⟨hline, hspace⟩ ⟨hslash, hangle, fun h => absurd h hdash⟩ htoken fresh
  rwa [List.drop_left] at hstands

lemma stands_mark {c : Char} (hc : Json.isMark c ∨ c = ';') (fresh : Bool) :
    Stands [.sign (.singleton c)] (Cursor.at fresh (c :: rest)) (Cursor.at false rest) := by
  have hstart : isLineEnd c = false ∧ isSpace c = false ∧ c ≠ '/' ∧ c ≠ '<' ∧ c ≠ '-' := by
    rcases hc with hc | rfl
    · rcases Json.mark_cases hc with rfl | rfl | rfl | rfl | rfl | rfl <;> decide
    · decide
  obtain ⟨hline, hspace, hslash, hangle, hdash⟩ := hstart
  exact stands_one ⟨hline, hspace⟩ ⟨hslash, hangle, fun h => absurd h hdash⟩ (tokenAt_mark hc rest)
    fresh

lemma stands_literal {body : List Char} {s : String} (hbody : Json.Quotable body)
    (h : Spells ('"' :: (body ++ ['"'])) (.text (some s))) (fresh : Bool) :
    Stands [.text (some s)] (Cursor.at fresh ('"' :: (body ++ '"' :: rest)))
      (Cursor.at false rest) := by
  have hdrop : ('"' :: (body ++ '"' :: rest)).drop (body.length + 2) = rest := by
    have hlength : body.length + 2 = ('"' :: (body ++ ['"'])).length := by simp
    have happend : '"' :: (body ++ '"' :: rest) = '"' :: (body ++ ['"']) ++ rest := by simp
    rw [hlength, happend, List.drop_left]
  have hstands := stands_one (c := '"') ⟨by decide, by decide⟩
    ⟨by decide, by decide, fun h => absurd h (by decide)⟩ (tokenAt_literal hbody h rest) fresh
  rwa [hdrop] at hstands

/-- A negative number is a minus sign and a whole number. -/
lemma stands_negative {ds : List Char} (h : Json.Numeral ds)
    (hvalue : Text.digitsValue ds ≤ 2 ^ 53) (hrest : ∀ c ∈ rest.head?, IsBreak c) (fresh : Bool) :
    Stands [.sign "-", .number (ofNat? (Text.digitsValue ds))]
      (Cursor.at fresh ('-' :: (ds ++ rest))) (Cursor.at false rest) := by
  have hnumber := stands_whole h hvalue hrest false
  obtain ⟨d, ds, rfl⟩ := List.exists_cons_of_ne_nil h.filled
  have hd : Text.isAsciiDigit d := h.digits d (by simp)
  have hclose : (d :: (ds ++ rest)).take 2 ≠ ['-', '>'] := by
    intro htake
    have hdash : d = '-' := by
      cases hmore : ds ++ rest <;> simp_all
    rw [hdash] at hd
    cases hd
  have hsign : tokenAt ('-' :: d :: (ds ++ rest)) = (.sign "-", 1) := tokenAt_minus hd
  have hminus := stands_one ⟨by decide, by decide⟩ ⟨by decide, by decide, fun _ => hclose⟩ hsign
    fresh
  exact hminus.append hnumber

/-- A word of JSON is read in a script as the tokens for what it spells. -/
lemma stands_word {w : List Char} {t : Json.Token} (h : Spells w t) (ht : Whole t)
    (hrest : Bare w → ∀ c ∈ rest.head?, IsBreak c) (fresh : Bool) :
    Stands (tokensOf t) (Cursor.at fresh (w ++ rest)) (Cursor.at false rest) := by
  cases t with
  | null =>
    have hbare := hrest (h.bare trivial)
    rw [h.eq_null]
    exact stands_keyword (by decide) (by decide) hbare fresh
  | bool b =>
    have hbare := hrest (h.bare trivial)
    rw [h.eq_bool]
    cases b
    · exact stands_keyword (w := ['a', 'l', 's', 'e']) (by decide) (by decide) hbare fresh
    · exact stands_keyword (w := ['r', 'u', 'e']) (by decide) (by decide) hbare fresh
  | number n =>
    obtain ⟨i, rfl, hi⟩ := ht
    have hbare := hrest (h.bare trivial)
    obtain ⟨ds, hds, hvalue, rfl⟩ := h.eq_int
    rw [← hvalue] at hi
    rw [tokensOf, ← hvalue]
    split
    · exact stands_negative hds hi hbare fresh
    · exact stands_whole hds hi hbare fresh
  | text s =>
    obtain ⟨s, rfl⟩ := Option.isSome_iff_exists.1 ht
    cases h.shape with
    | mark hmark => cases hmark
    | bare _ hatomic => cases hatomic
    | literal hbody =>
      rw [tokensOf, List.cons_append, List.append_assoc]
      exact stands_literal hbody h fresh
  | _ =>
    cases h.shape with
    | mark hmark =>
      cases hmark
      exact stands_mark (.inl (by decide)) fresh
    | bare _ hatomic => cases hatomic

end

/-- Behind a bare word there is a break, since the next word is not bare. -/
lemma head_break {ws : List (List Char)} {s rest : List Char} (hs : Spaced ws s)
    (hw : ∀ w ∈ ws.head?, Json.Word w ∧ ¬ Bare w) (hrest : ∀ c ∈ rest.head?, IsBreak c) :
    ∀ c ∈ (s ++ rest).head?, IsBreak c := by
  cases hs with
  | last hg => exact forall_head_blanks hg (fun _ => isBreak_of_isGap) hrest
  | @word g w s ws hg hs =>
    rw [List.append_assoc]
    refine forall_head_blanks hg (fun _ => isBreak_of_isGap) fun c hc => ?_
    obtain ⟨hword, hbare⟩ := hw w rfl
    cases hword with
    | mark hmark =>
      cases hc
      exact isBreak_of_isMark hmark
    | bare h => exact absurd h hbare
    | literal _ =>
      cases hc
      decide

/-- A text of JSON words is read in a script as the tokens for what they spell. -/
theorem stands_spaced {ws : List (List Char)} {s : List Char} {toks : List Json.Token}
    (hs : Spaced ws s) (h : List.Forall₂ Spells ws toks) (hchain : ws.IsChain Json.Apart)
    (hwhole : ∀ t ∈ toks, Whole t) {rest : List Char} (hrest : ∀ c ∈ rest.head?, IsBreak c)
    (fresh : Bool) :
    ∃ fresh', Stands (toks.flatMap tokensOf) (Cursor.at fresh (s ++ rest))
      (Cursor.at fresh' rest) := by
  induction hs generalizing toks fresh with
  | last hg =>
    cases h
    exact ⟨_, at_blanks hg fresh rest⟩
  | @word g w s ws hg hs ih =>
    cases h with
    | @cons _ t _ toks hw hws =>
      obtain ⟨hapart, hchain⟩ := List.isChain_cons.1 hchain
      have hbreak : Bare w → ∀ c ∈ (s ++ rest).head?, IsBreak c := by
        refine fun hbare =>
          head_break hs (fun v hv => ⟨?_, fun hvb => hapart v hv ⟨hbare, hvb⟩⟩) hrest
        exact Json.word_of_shaped (hws.imp fun _ _ h => h.shape) v (List.mem_of_mem_head? hv)
      have hword := stands_word hw (hwhole t (by simp)) hbreak (fresh || g.any isLineEnd)
      obtain ⟨fresh', hrest'⟩ := ih hws hchain (fun u hu => hwhole u (by simp [hu])) false
      refine ⟨fresh', ?_⟩
      rw [List.append_assoc, List.append_assoc, at_blanks hg, List.flatMap_cons]
      exact hword.append hrest'

end Estate.Script
