import Estate.Proofs.Json.Spelling

/-!
Tokens as they are put together to terms: the tokens of a value make the term that writes it, and
tokens that make a term may follow each other.
-/

namespace Estate.Json

mutual

/-- The tokens that write a value. -/
def Value.tokens : Value → List Token
  | .null => [.null]
  | .bool b => [.bool b]
  | .number n => [.number (some n)]
  | .string s => [.text (some s)]
  | .array items => .openBracket :: (itemsTokens items ++ [.closeBracket])
  | .object ms => .openBrace :: (membersTokens ms ++ [.closeBrace])

def itemsTokens : List Value → List Token
  | [] => []
  | [v] => v.tokens
  | v :: w :: rest => v.tokens ++ .comma :: itemsTokens (w :: rest)

def membersTokens : List (String × Value) → List Token
  | [] => []
  | [(k, v)] => .text (some k) :: .colon :: v.tokens
  | (k, v) :: m :: rest =>
    .text (some k) :: .colon :: (v.tokens ++ .comma :: membersTokens (m :: rest))

end

/-- A value may come next. -/
def Expect.Open (e : Expect) : Prop := e = .value ∨ e = .valueOrEnd

/-- A key may come next. -/
def Expect.Keyed (e : Expect) : Prop := e = .key ∨ e = .keyOrEnd

lemma Assembly.step_open {e : Expect} (he : e.Open) (frames : List Frame) {t : Token}
    (ht : t ≠ .closeBracket) : Assembly.step ⟨frames, e⟩ t = Assembly.begin frames t := by
  rcases he with rfl | rfl
  · rfl
  · cases t <;> first | rfl | exact absurd rfl ht

lemma Assembly.step_keyed {e : Expect} (he : e.Keyed) (frames : List Frame) (k : Option String) :
    Assembly.step ⟨frames, e⟩ (.text k) = some ⟨frames, .colon k⟩ := by
  rcases he with rfl | rfl <;> rfl

/-- The tokens are put together from there on. -/
def Assembly.run (a : Assembly) (ts : List Token) : Option Assembly := ts.foldlM Assembly.step a

lemma Assembly.run_cons (a : Assembly) (t : Token) (ts : List Token) :
    a.run (t :: ts) = (a.step t).bind fun b => b.run ts := List.foldlM_cons

mutual

/-- Wherever a value may come, its tokens complete it. -/
theorem Value.run_tokens (v : Value) {e : Expect} (he : e.Open) (frames : List Frame)
    (rest : List Token) :
    Assembly.run ⟨frames, e⟩ (v.tokens ++ rest) = (Assembly.put frames (.ofValue v)).run rest := by
  cases v with
  | array items =>
    have hclose : (itemsTokens items ++ .closeBracket :: rest).foldlM Assembly.step
        ⟨.array [] :: frames, .valueOrEnd⟩ =
        (Assembly.put frames (.array (ofItems items))).run rest := by
      cases items with
      | nil => rfl
      | cons v more =>
        refine (run_itemsTokens (v :: more) (by simp) (.inr rfl) [] frames _).trans ?_
        rw [Assembly.run_cons, List.append_nil]
        simp [Assembly.step, Assembly.close, Assembly.run]
    rw [Value.tokens, List.cons_append, Assembly.run_cons, Assembly.step_open he _ (by simp),
      List.append_assoc]
    exact hclose
  | object ms =>
    have hclose : (membersTokens ms ++ .closeBrace :: rest).foldlM Assembly.step
        ⟨.object [] none :: frames, .keyOrEnd⟩ =
        (Assembly.put frames (.object (ofMembers ms))).run rest := by
      cases ms with
      | nil => rfl
      | cons m more =>
        refine (run_membersTokens (m :: more) (by simp) (.inr rfl) [] frames _).trans ?_
        rw [Assembly.run_cons, List.append_nil]
        simp [Assembly.step, Assembly.close, Assembly.run]
    rw [Value.tokens, List.cons_append, Assembly.run_cons, Assembly.step_open he _ (by simp),
      List.append_assoc]
    exact hclose
  | _ =>
    rw [Value.tokens, List.cons_append, Assembly.run_cons, Assembly.step_open he _ (by simp)]
    rfl

theorem run_itemsTokens (items : List Value) (hne : items ≠ []) {e : Expect} (he : e.Open)
    (done : List Term) (outer : List Frame) (rest : List Token) :
    Assembly.run ⟨.array done :: outer, e⟩ (itemsTokens items ++ rest) =
      Assembly.run ⟨.array ((ofItems items).reverse ++ done) :: outer, .separator⟩ rest := by
  match items, hne with
  | [v], _ =>
    refine (v.run_tokens he _ rest).trans ?_
    simp [Assembly.put, ofItems]
  | v :: w :: more, _ =>
    rw [itemsTokens, List.append_assoc, v.run_tokens he, List.cons_append, Assembly.put,
      Assembly.run_cons]
    refine (run_itemsTokens (w :: more) (by simp) (.inl rfl) (.ofValue v :: done)
      outer rest).trans ?_
    simp [ofItems]

theorem run_membersTokens (ms : List (String × Value)) (hne : ms ≠ []) {e : Expect}
    (he : e.Keyed) (done : List (Option String × Term)) (outer : List Frame)
    (rest : List Token) :
    Assembly.run ⟨.object done none :: outer, e⟩ (membersTokens ms ++ rest) =
      Assembly.run ⟨.object ((ofMembers ms).reverse ++ done) none :: outer, .separator⟩ rest := by
  match ms, hne with
  | [(k, v)], _ =>
    rw [membersTokens, List.cons_append, Assembly.run_cons, Assembly.step_keyed he]
    refine (v.run_tokens (.inl rfl) (.object done (some k) :: outer) rest).trans ?_
    simp [Assembly.put, ofMembers]
  | (k, v) :: m :: more, _ =>
    rw [membersTokens, List.cons_append, Assembly.run_cons, Assembly.step_keyed he,
      List.cons_append, List.append_assoc]
    refine (v.run_tokens (.inl rfl) (.object done (some k) :: outer) _).trans ?_
    rw [List.cons_append, Assembly.put, Assembly.run_cons]
    refine (run_membersTokens (m :: more) (by simp) (.inl rfl) ((some k, .ofValue v) :: done)
      outer rest).trans ?_
    simp [ofMembers]

end

/-- The tokens of a value are read as the term that writes it. -/
lemma ofTokens?_tokens (v : Value) : Term.ofTokens? v.tokens = some (.ofValue v) := by
  have h : Assembly.run ⟨[], .value⟩ (v.tokens ++ []) = some ⟨[], .done (.ofValue v)⟩ :=
    v.run_tokens (.inl rfl) [] []
  rw [List.append_nil] at h
  unfold Term.ofTokens?
  rw [show v.tokens.foldlM Assembly.step ⟨[], .value⟩ = _ from h]

/-! ### Tokens in a row -/

/-- A value or key has to come next. -/
def Hungry (a : Assembly) : Prop := a.expect = .value ∨ a.expect = .key

lemma hungry_of_step {a b : Assembly} {t : Token} (ht : t = .comma ∨ t = .colon)
    (h : a.step t = some b) : Hungry b := by
  obtain ⟨frames, e⟩ := a
  rcases ht with rfl | rfl
  · cases e <;> try cases h
    rcases frames with _ | ⟨_ | _, _⟩ <;> cases h
    · exact .inl rfl
    · exact .inr rfl
  · cases e <;> try cases h
    · rcases frames with _ | ⟨_ | _, _⟩ <;> cases h
      exact .inl rfl
    · rcases frames with _ | ⟨_ | _, _⟩ <;> cases h

lemma step_closing_of_hungry {a : Assembly} {t : Token} (ha : Hungry a) (ht : t.Closing) :
    a.step t = none := by
  obtain ⟨frames, e⟩ := a
  rcases ha with rfl | rfl <;> rcases ht with rfl | rfl <;> rfl

/-- A value is complete. -/
def Sated (a : Assembly) : Prop := a.expect = .separator ∨ ∃ t, a.expect = .done t

lemma sated_put (frames : List Frame) (t : Term) : Sated (Assembly.put frames t) := by
  rcases frames with _ | ⟨_ | _, _⟩
  · exact .inr ⟨t, rfl⟩
  · exact .inl rfl
  · exact .inl rfl

lemma sated_of_step {a b : Assembly} {t : Token} (ht : t.Atomic) (h : a.step t = some b) :
    Sated b := by
  obtain ⟨frames, e⟩ := a
  cases t <;> try cases ht
  all_goals
    cases e <;> try cases h
    all_goals first
      | exact sated_put _ _
      | rcases frames with _ | ⟨_ | _, _⟩ <;> cases h

lemma comma_or_closing_of_sated {a b : Assembly} {t : Token} (ha : Sated a)
    (h : a.step t = some b) : t = .comma ∨ t.Closing := by
  obtain ⟨frames, e⟩ := a
  rcases ha with rfl | ⟨_, rfl⟩
  · cases t
    case comma => exact .inl rfl
    case closeBracket => exact .inr (.inl rfl)
    case closeBrace => exact .inr (.inr rfl)
    all_goals rcases frames with _ | ⟨_ | _, _⟩ <;> cases h
  · cases h

/-- Behind a number or keyword comes a comma or a closing bracket, and behind a comma no closing
bracket. -/
structure Token.Meets (a b : Token) : Prop where
  ended : a.Atomic → b = .comma ∨ b.Closing
  full : a = .comma → ¬ b.Closing

lemma Token.Meets.follows {a b : Token} (h : a.Meets b) : a.Follows b where
  apart := by
    rintro ⟨ha, hb⟩
    rcases h.ended ha with rfl | rfl | rfl <;> cases hb
  full := h.full

/-- Tokens that are put together meet. -/
lemma meets_of_run {a b : Assembly} {ts : List Token} (h : a.run ts = some b) :
    ts.IsChain Token.Meets := by
  induction ts generalizing a with
  | nil => exact .nil
  | cons t ts ih =>
    rw [Assembly.run_cons] at h
    obtain ⟨a', hstep, h⟩ := Option.bind_eq_some_iff.1 h
    refine List.isChain_cons.2 ⟨fun u hu => ?_, ih h⟩
    cases ts with
    | nil => cases hu
    | cons v ts =>
      cases hu
      rw [Assembly.run_cons] at h
      obtain ⟨a'', hstep', -⟩ := Option.bind_eq_some_iff.1 h
      constructor
      · exact fun ht => comma_or_closing_of_sated (sated_of_step ht hstep) hstep'
      · rintro rfl hu
        rw [step_closing_of_hungry (hungry_of_step (.inl rfl) hstep) hu] at hstep'
        cases hstep'

/-- Tokens that are put together may follow each other. -/
lemma chain_of_run {a b : Assembly} {ts : List Token} (h : a.run ts = some b) :
    ts.IsChain Token.Follows :=
  (meets_of_run h).imp fun _ _ h => h.follows

/-- The words write a JSON text that is read as the term. -/
def Writes (ws : List (List Char)) (term : Term) : Prop :=
  ∃ toks, List.Forall₂ Spells ws toks ∧ Term.ofTokens? toks = some term

lemma run_of_ofTokens? {toks : List Token} {term : Term} (h : Term.ofTokens? toks = some term) :
    ∃ b, Assembly.run ⟨[], .value⟩ toks = some b := by
  unfold Term.ofTokens? at h
  split at h
  · next hrun => exact ⟨_, hrun⟩
  · cases h

/-- The words with blanks around them are read as the term. -/
lemma Writes.ofText? {ws : List (List Char)} {term : Term} (h : Writes ws term) {s : String}
    (hs : Spaced ws s.toList) : Term.ofText? s = some term := by
  obtain ⟨toks, hws, hterm⟩ := h
  obtain ⟨b, hrun⟩ := run_of_ofTokens? hterm
  have hshape : List.Forall₂ Shaped ws toks := hws.imp fun _ _ h => h.shape
  have htokens : tokens? s.toList = some toks := by
    rw [tokens?_spaced hs (word_of_shaped hshape) (chain_of_shaped hshape (chain_of_run hrun)),
      foldlM_spells hws]
    simp
  rw [Term.ofText?, htokens]
  exact hterm

lemma Value.meets_tokens (v : Value) : v.tokens.IsChain Token.Meets := by
  obtain ⟨b, hrun⟩ := run_of_ofTokens? (ofTokens?_tokens v)
  exact meets_of_run hrun

lemma Value.isChain_tokens (v : Value) : v.tokens.IsChain Token.Follows :=
  v.meets_tokens.imp fun _ _ h => h.follows

end Estate.Json
