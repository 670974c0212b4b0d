import Estate.Proofs.Json.Assembly
import Estate.Proofs.Json.PrintedNumber

/-!
The compact text of a value is read back: its words write its tokens, if the numbers in it are read
back.
-/

namespace Estate.Json

/-- The text of a token. -/
def Token.print : Token → List Char
  | .openBrace => ['{']
  | .closeBrace => ['}']
  | .openBracket => ['[']
  | .closeBracket => [']']
  | .colon => [':']
  | .comma => [',']
  | .null => ['n', 'u', 'l', 'l']
  | .bool true => ['t', 'r', 'u', 'e']
  | .bool false => ['f', 'a', 'l', 's', 'e']
  | .number n => n.elim [] Number.render
  | .text s => s.elim [] quote

/-- The words of the compact text. -/
def Value.words (v : Value) : List (List Char) := v.tokens.map Token.print

mutual

theorem Value.flatten_tokens (v : Value) : (v.tokens.map Token.print).flatten = v.render := by
  cases v with
  | bool b => cases b <;> simp [Value.tokens, Value.render, Token.print]
  | array items => simp [Value.tokens, Value.render, Token.print, flatten_itemsTokens items]
  | object ms => simp [Value.tokens, Value.render, Token.print, flatten_membersTokens ms]
  | _ => simp [Value.tokens, Value.render, Token.print]

theorem flatten_itemsTokens (items : List Value) :
    ((itemsTokens items).map Token.print).flatten = renderItems items := by
  match items with
  | [] => rfl
  | [v] => exact v.flatten_tokens
  | v :: w :: rest =>
    simp [itemsTokens, renderItems, Token.print, v.flatten_tokens, flatten_itemsTokens (w :: rest)]

theorem flatten_membersTokens (ms : List (String × Value)) :
    ((membersTokens ms).map Token.print).flatten = renderMembers ms := by
  match ms with
  | [] => rfl
  | [(k, v)] => simp [membersTokens, renderMembers, Token.print, v.flatten_tokens]
  | (k, v) :: m :: rest =>
    simp [membersTokens, renderMembers, Token.print, v.flatten_tokens,
      flatten_membersTokens (m :: rest)]

end

lemma spaced_flatten (ws : List (List Char)) : Spaced ws ws.flatten := by
  have hnone : Blanks [] := by simp [Blanks]
  induction ws with
  | nil => exact .last hnone
  | cons w ws ih => exact .word hnone ih

lemma Value.spaced_render (v : Value) : Spaced v.words v.render :=
  v.flatten_tokens ▸ spaced_flatten v.words

/-- The token has a text, or a number. -/
def Token.Valued : Token → Prop
  | .number n => n.isSome
  | .text s => s.isSome
  | _ => True

mutual

theorem Value.valued_tokens (v : Value) : ∀ t ∈ v.tokens, t.Valued := by
  cases v with
  | array items =>
    have h := valued_itemsTokens items
    simp_all [Value.tokens, Token.Valued, or_imp]
  | object ms =>
    have h := valued_membersTokens ms
    simp_all [Value.tokens, Token.Valued, or_imp]
  | _ => simp [Value.tokens, Token.Valued]

theorem valued_itemsTokens (items : List Value) : ∀ t ∈ itemsTokens items, t.Valued := by
  match items with
  | [] => simp [itemsTokens]
  | [v] => exact v.valued_tokens
  | v :: w :: rest =>
    have hv := v.valued_tokens
    have hrest := valued_itemsTokens (w :: rest)
    simp_all [itemsTokens, Token.Valued, or_imp]

theorem valued_membersTokens (ms : List (String × Value)) :
    ∀ t ∈ membersTokens ms, t.Valued := by
  match ms with
  | [] => simp [membersTokens]
  | [(k, v)] =>
    have hv := v.valued_tokens
    simp_all [membersTokens, Token.Valued]
  | (k, v) :: m :: rest =>
    have hv := v.valued_tokens
    have hrest := valued_membersTokens (m :: rest)
    simp_all [membersTokens, Token.Valued, or_imp]

end

/-! ### Strings -/

lemma hexDigit_lt {n : Nat} (h : n < 16) : hexDigit n ≠ '"' ∧ hexDigit n ≠ '\\' ∧
    (Text.hexDigit? (hexDigit n)).isSome := by
  have hall : ∀ n < 16, hexDigit n ≠ '"' ∧ hexDigit n ≠ '\\' ∧
      (Text.hexDigit? (hexDigit n)).isSome := by decide
  exact hall n h

lemma ofHex_control {n : Nat} (h : n < 32) :
    Text.ofHex ['0', '0', hexDigit (n / 16), hexDigit (n % 16)] = n := by
  have hall : ∀ n < 32, Text.ofHex ['0', '0', hexDigit (n / 16), hexDigit (n % 16)] = n := by
    decide
  exact hall n h

lemma quotable_escape (c : Char) {cs : List Char} (h : Quotable cs) :
    Quotable (escape c ++ cs) := by
  unfold escape
  split
  case h_8 hquote hback _ _ _ _ _ =>
    split
    · have hzero : ∀ {ds}, Quotable ds → Quotable ('0' :: ds) := .plain (by decide) (by decide)
      obtain ⟨hq₁, hb₁, -⟩ := hexDigit_lt (n := c.toNat / 16) (by omega)
      obtain ⟨hq₂, hb₂, -⟩ := hexDigit_lt (n := c.toNat % 16) (by omega)
      exact .escaped 'u' (hzero (hzero (.plain hq₁ hb₁ (.plain hq₂ hb₂ h))))
    · exact .plain hquote hback h
  all_goals exact .escaped _ h

lemma quotable_flatMap (cs : List Char) : Quotable (cs.flatMap escape) := by
  induction cs with
  | nil => exact .nil
  | cons c cs ih => exact quotable_escape c ih

section

variable {acc : List Token} {read : List Piece}

lemma foldlM_step {s s' : Scan} {c : Char} {cs : List Char} (h : s.step c = some s') :
    (c :: cs).foldlM Scan.step s = cs.foldlM Scan.step s' := by
  rw [List.foldlM_cons, h]
  rfl

lemma Scan.step_text_plain {c : Char} (hq : c ≠ '"') (hb : c ≠ '\\') (h : ¬ c.toNat < 32) :
    Scan.step ⟨acc, .text read⟩ c = some ⟨acc, .text (.char c :: read)⟩ := by
  simp only [Scan.step, beq_iff_eq, hq, hb, h, if_false]

lemma Scan.step_unicode {c : Char} {digits : List Char} (h : (Text.hexDigit? c).isSome)
    (hlen : digits.length < 3) :
    Scan.step ⟨acc, .unicode read digits⟩ c = some ⟨acc, .unicode read (c :: digits)⟩ := by
  have hsome : (Text.hexDigit? c).isNone = false := by simp [h]
  simp only [Scan.step, hsome, Bool.false_eq_true, if_false, hlen, if_true]

lemma Scan.step_unicode_last {c : Char} {digits : List Char} (h : (Text.hexDigit? c).isSome)
    (hlen : ¬ digits.length < 3) : Scan.step ⟨acc, .unicode read digits⟩ c =
      some ⟨acc, .text (.unit (Text.ofHex (c :: digits).reverse) :: read)⟩ := by
  have hsome : (Text.hexDigit? c).isNone = false := by simp [h]
  simp only [Scan.step, hsome, Bool.false_eq_true, if_false, hlen]

lemma joinPieces_unit {n : Nat} (h : n < 0xD800) (rest : List Piece) :
    joinPieces (.unit n :: rest) = (joinPieces rest).map (Char.ofNat n :: ·) := by
  cases rest with
  | nil => simp [joinPieces, h]
  | cons p rest => cases p <;> simp [joinPieces, h]

/-- The escape of a character is read as a piece that stands for it. -/
lemma foldlM_escape (c : Char) (acc : List Token) (read : List Piece) :
    ∃ p, (∀ rest, joinPieces (p :: rest) = (joinPieces rest).map (c :: ·)) ∧
      (escape c).foldlM Scan.step ⟨acc, .text read⟩ = some ⟨acc, .text (p :: read)⟩ := by
  unfold escape
  split
  case h_8 hquote hback _ _ _ _ _ =>
    split
    · next hlt =>
      obtain ⟨-, -, hhigh⟩ := hexDigit_lt (n := c.toNat / 16) (by omega)
      obtain ⟨-, -, hlow⟩ := hexDigit_lt (n := c.toNat % 16) (by omega)
      refine ⟨.unit c.toNat, fun rest => ?_, ?_⟩
      · rw [joinPieces_unit (by omega), Char.ofNat_toNat]
      · have hzero : (Text.hexDigit? '0').isSome := by decide
        have hescape : Scan.step ⟨acc, .text read⟩ '\\' = some ⟨acc, .escape read⟩ := rfl
        have hunicode : Scan.step ⟨acc, .escape read⟩ 'u' = some ⟨acc, .unicode read []⟩ := rfl
        have hlast : Scan.step ⟨acc, .unicode read [hexDigit (c.toNat / 16), '0', '0']⟩
            (hexDigit (c.toNat % 16)) = some ⟨acc, .text (.unit c.toNat :: read)⟩ := by
          rw [Scan.step_unicode_last hlow (by simp)]
          simp [ofHex_control hlt]
        rw [foldlM_step hescape, foldlM_step hunicode,
          foldlM_step (Scan.step_unicode hzero (by decide)),
          foldlM_step (Scan.step_unicode hzero (by decide)),
          foldlM_step (Scan.step_unicode hhigh (by simp)), foldlM_step hlast]
        rfl
    · next hge =>
      refine ⟨.char c, fun rest => rfl, ?_⟩
      rw [foldlM_step (Scan.step_text_plain hquote hback hge)]
      rfl
  all_goals exact ⟨.char _, fun rest => rfl, rfl⟩

end

/-- Between the quotes a text is read as pieces that stand for it. -/
lemma foldlM_escaped (cs : List Char) (acc : List Token) (read : List Piece) :
    ∃ ps, joinPieces ps = some cs ∧
      (cs.flatMap escape).foldlM Scan.step ⟨acc, .text read⟩ =
        some ⟨acc, .text (ps.reverse ++ read)⟩ := by
  induction cs generalizing read with
  | nil => exact ⟨[], rfl, rfl⟩
  | cons c cs ih =>
    obtain ⟨p, hp, hstep⟩ := foldlM_escape c acc read
    obtain ⟨ps, hps, hrest⟩ := ih (p :: read)
    refine ⟨p :: ps, ?_, ?_⟩
    · rw [hp, hps]
      rfl
    · rw [List.flatMap_cons, List.foldlM_append, hstep]
      simpa using hrest

lemma tokens?_quote (s : String) : tokens? (quote s) = some [.text (some s)] := by
  obtain ⟨ps, hps, hfold⟩ := foldlM_escaped s.toList [] []
  have hquote : Scan.step ⟨[], .gap⟩ '"' = some ⟨[], .text []⟩ := rfl
  have hscan : (quote s).foldlM Scan.step ⟨[], .gap⟩ = some ⟨[.text (some s)], .gap⟩ := by
    rw [quote, foldlM_step hquote, List.foldlM_append, hfold]
    simp [Scan.step, hps]
  rw [tokens?, hscan]
  rfl

/-! ### Values -/

lemma Token.shaped_print {t : Token} (h : t.Valued) : Shaped t.print t := by
  cases t with
  | null => exact .bare (bare_of_all rfl) trivial
  | bool b => cases b <;> exact .bare (bare_of_all rfl) trivial
  | number n =>
    obtain ⟨n, rfl⟩ := Option.isSome_iff_exists.1 h
    exact .bare n.bare_render trivial
  | text s =>
    obtain ⟨s, rfl⟩ := Option.isSome_iff_exists.1 h
    exact .literal (quotable_flatMap s.toList)
  | _ => exact .mark rfl

lemma Token.spells_print {t : Token} (h : t.Valued)
    (hn : ∀ n, t = .number (some n) → n.ReadsBack) : Spells t.print t where
  shape := t.shaped_print h
  read := by
    cases t with
    | null => rfl
    | bool b => cases b <;> rfl
    | number n =>
      obtain ⟨n, rfl⟩ := Option.isSome_iff_exists.1 h
      exact tokens?_number (hn n rfl)
    | text s =>
      obtain ⟨s, rfl⟩ := Option.isSome_iff_exists.1 h
      exact tokens?_quote s
    | _ => rfl

lemma forall₂_print {R : List Char → Token → Prop} {ts : List Token}
    (h : ∀ t ∈ ts, R t.print t) : List.Forall₂ R (ts.map Token.print) ts := by
  induction ts with
  | nil => exact .nil
  | cons t ts ih => exact .cons (h t (by simp)) (ih fun u hu => h u (by simp [hu]))

namespace Value

/-- The words of a value are of the kinds that write its tokens. -/
lemma shaped_words (v : Value) : List.Forall₂ Shaped v.words v.tokens :=
  forall₂_print fun t ht => t.shaped_print (v.valued_tokens t ht)

/-- The integers in the value are ones that numbers are made of. -/
def InRange (v : Value) : Prop := ∀ n : Number, .number (some n) ∈ v.tokens → n.InRange

/-- The floats in the value are read back from their texts. -/
def Exact (v : Value) : Prop :=
  ∀ x : Binary64, .number (some (.float x)) ∈ v.tokens → (Number.float x).ReadsBack

lemma spells_words {v : Value} (hr : v.InRange) (he : v.Exact) :
    List.Forall₂ Spells v.words v.tokens := by
  refine forall₂_print fun t ht => t.spells_print (v.valued_tokens t ht) ?_
  rintro n rfl
  cases n with
  | int n => exact Number.readsBack_int (hr _ ht)
  | float x => exact he x ht

/-- The compact text is read as the term that writes the value. -/
lemma ofText?_toText {v : Value} (hr : v.InRange) (he : v.Exact) :
    Term.ofText? v.toText = some (.ofValue v) := by
  have hwrites : Writes v.words (.ofValue v) := ⟨v.tokens, spells_words hr he, ofTokens?_tokens v⟩
  refine hwrites.ofText? ?_
  rw [toText, String.toList_ofList]
  exact v.spaced_render

end Value

end Estate.Json
