import Estate.Proofs.Json.Accepted
import Estate.Proofs.Script.Expressions
import Estate.Proofs.Script.Statements
import Estate.Script.Value

/-!
Scripts in which JSON texts are assigned to one variable, with or without a declaration. Each
assignment gives the variable the value of its text.
-/

namespace Estate.Script

open Json (Value Spells Spaced Blanks)

/-- A name that a variable can have. -/
inductive IsName : List Char → Prop where
  | mk {c : Char} {w : List Char} (hc : isNameStart c) (hw : ∀ d ∈ w, isNamePart d)
    (hfree : String.ofList (c :: w) ∉ reservedWords) : IsName (c :: w)

/-- An array or object. -/
def IsCompound : Value → Prop
  | .array _ => True
  | .object _ => True
  | _ => False

/-- A JSON text of an array or object that is written with whole numbers, and its value. -/
structure IsLiteral (text : List Char) (w : Value) : Prop where
  read : Value.ofText? (.ofList text) = some w
  compound : IsCompound w
  whole : ∀ toks, Json.tokens? text = some toks → ∀ n, .number n ∈ toks →
    ∃ i, n = some (.int i) ∧ i.natAbs ≤ 2 ^ 53

/-- A literal is assigned to the name. -/
inductive IsAssignment (name : List Char) (w : Value) : List Char → Prop where
  | mk {g text : List Char} (hg : Blanks g) (h : IsLiteral text w) :
    IsAssignment name w (name ++ (g ++ '=' :: (text ++ [';'])))

/-- An assignment by itself, or one that declares the variable. -/
inductive IsStatement (name : List Char) (w : Value) : List Char → Prop where
  | assigned {g text : List Char} (hg : Blanks g) (h : IsAssignment name w text) :
    IsStatement name w (g ++ text)
  | declared {g g' text : List Char} (hg : Blanks g) (hg' : Blanks g') (hne : g' ≠ [])
    (h : IsAssignment name w text) : IsStatement name w (g ++ ("var".toList ++ (g' ++ text)))

/-- The values are assigned to the name, one after the other. -/
inductive IsScript (name : List Char) : List Value → List Char → Prop where
  | last {g : List Char} (hg : Blanks g) : IsScript name [] g
  | more {w : Value} {ws : List Value} {s t : List Char} (hs : IsStatement name w s)
    (h : IsScript name ws t) : IsScript name (w :: ws) (s ++ t)

section

variable {name text : List Char} {w : Value}

/-! ### Names -/

lemma IsName.free (h : IsName name) : String.ofList name ∉ reservedWords := by
  obtain ⟨-, -, hfree⟩ := h
  exact hfree

lemma IsName.head (h : IsName name) (rest : List Char) : ∀ c ∈ (name ++ rest).head?, c ≠ '#' := by
  obtain ⟨hc, -, -⟩ := h
  rintro c hc' rfl
  cases hc'
  exact absurd hc (by decide)

/-! ### Literals -/

lemma isCompound_of_value? {v : Value} {d : Nat} (hw : IsCompound w)
    (h : (Json.Term.ofValue v).value? d = some w) : IsCompound v := by
  cases v with
  | array list => trivial
  | object list => trivial
  | _ =>
    cases h
    exact hw

/-- A literal consists of words for the tokens of an array or object. -/
lemma IsLiteral.written (h : IsLiteral text w) :
    ∃ v ws, IsCompound v ∧ (∀ t ∈ v.tokens, Whole t) ∧ List.Forall₂ Spells ws v.tokens ∧
      Spaced ws text ∧ (Json.Term.ofValue v).value? Json.depthLimit = some w := by
  obtain ⟨hread, hcompound, hnumbers⟩ := h
  obtain ⟨v, ws, htoks, hws, hs, hvalue⟩ := Json.words_of_ofText? hread
  rw [String.toList_ofList] at htoks hs
  refine ⟨v, ws, isCompound_of_value? hcompound hvalue, fun t ht => ?_, hws, hs, hvalue⟩
  cases t with
  | number n => exact hnumbers _ htoks n ht
  | text s => exact v.valued_tokens _ ht
  | _ => trivial

lemma IsCompound.opens {v : Value} (h : IsCompound v) :
    ∃ t ts c, v.tokens = t :: ts ∧ t.mark? = some c ∧ (c = '[' ∨ c = '\x7b') := by
  cases v with
  | array list => exact ⟨_, _, '[', by rw [Value.tokens], rfl, .inl rfl⟩
  | object list => exact ⟨_, _, '\x7b', by rw [Value.tokens], rfl, .inr rfl⟩
  | _ => cases h

/-- A literal starts with a break, if what follows it does. -/
lemma head_literal (h : IsLiteral text w) {rest : List Char} (hrest : ∀ c ∈ rest.head?, IsBreak c) :
    ∀ c ∈ (text ++ rest).head?, IsBreak c := by
  obtain ⟨v, ws, hv, -, hws, hs, -⟩ := h.written
  obtain ⟨t, ts, c, htokens, ht, -⟩ := hv.opens
  rw [htokens] at hws
  refine head_break hs (fun u hu => ?_) hrest
  cases hws with
  | cons hword _ =>
    cases hu
    refine ⟨hword.shape.word, ?_⟩
    rw [hword.shape.eq_mark ht]
    exact Json.not_bare_mark (Json.isMark_of_mark? ht)

lemma length_le_of_spaced {ws : List (List Char)} {s : List Char} (hs : Spaced ws s)
    (hw : ∀ u ∈ ws, Json.Word u) : ws.length ≤ s.length := by
  induction hs with
  | last _ => exact Nat.zero_le _
  | @word g u s ws _ _ ih =>
    have hword : 0 < u.length := by
      cases hw u (by simp) with
      | mark _ => simp
      | bare h => exact List.length_pos_iff.2 h.1
      | literal _ => simp
    have hrest := ih fun u hu => hw u (by simp [hu])
    simp only [List.length_cons, List.length_append]
    omega

/-! ### Places -/

/-- The tokens of a literal stand up to the semicolon behind it. -/
lemma stands_of_literal (h : IsLiteral text w) (fresh : Bool) (rest : List Char) :
    ∃ v, (∀ t ∈ v.tokens, Whole t) ∧ (Json.Term.ofValue v).value? Json.depthLimit = some w ∧
      v.tokens.length ≤ text.length ∧
      Stands (v.tokens.flatMap tokensOf ++ [.sign ";"]) (Cursor.at fresh (text ++ ';' :: rest))
        (Cursor.at false rest) := by
  obtain ⟨v, ws, -, hwhole, hws, hs, hvalue⟩ := h.written
  have hshaped : List.Forall₂ Json.Shaped ws v.tokens := hws.imp fun _ _ h => h.shape
  have hchain : ws.IsChain Json.Apart :=
    (Json.chain_of_shaped hshaped v.isChain_tokens).imp fun _ _ h => h.apart
  have hbreak : ∀ c ∈ (';' :: rest).head?, IsBreak c := by
    intro c hc
    cases hc
    decide
  refine ⟨v, hwhole, hvalue, ?_, ?_⟩
  · rw [← hws.length_eq]
    exact length_le_of_spaced hs (Json.word_of_shaped hshaped)
  · obtain ⟨fresh', hstands⟩ := stands_spaced hs hws hchain hwhole hbreak fresh
    exact hstands.append (stands_mark (.inr rfl) fresh')

/-- A name and the equals sign behind it stand before what is assigned. -/
lemma stands_target {g rest : List Char} (hname : IsName name) (hg : Blanks g)
    (hrest : ∀ c ∈ rest.head?, IsBreak c) (fresh : Bool) :
    Stands [.word (.ofList name), .sign "="] (Cursor.at fresh (name ++ (g ++ '=' :: rest)))
      (Cursor.at false rest) := by
  obtain ⟨hc, hw, -⟩ := hname
  have hbehind : ∀ c ∈ (g ++ '=' :: rest).head?, isNamePart c = false ∧ c ≠ '\\' := by
    refine forall_head_blanks hg (fun c hc => not_part_of_break (isBreak_of_isGap hc))
      fun c hc => ?_
    cases hc
    decide
  have hequals : ∀ c ∈ rest.head?, c ≠ '=' ∧ c ≠ '>' := by
    intro c hc
    have h := forall_break (p := fun c => c != '=' && c != '>') (by decide) (hrest c hc)
    simpa using h
  have hsign (fresh : Bool) : Stands [.sign "="] (Cursor.at fresh ('=' :: rest))
      (Cursor.at false rest) :=
    stands_one ⟨by decide, by decide⟩ ⟨by decide, by decide, fun h => absurd h (by decide)⟩
      (tokenAt_equals hequals) fresh
  refine (stands_name hc hw hbehind fresh).append ?_
  rw [at_blanks hg]
  exact hsign _

/-- An assignment stands with its name, its sign, and the tokens of its literal. -/
lemma stands_of_assignment (hname : IsName name) (h : IsAssignment name w text) (fresh : Bool)
    (rest : List Char) :
    ∃ v, (∀ t ∈ v.tokens, Whole t) ∧ (Json.Term.ofValue v).value? Json.depthLimit = some w ∧
      v.tokens.length < text.length ∧
      Stands (.word (.ofList name) :: .sign "=" :: (v.tokens.flatMap tokensOf ++ [.sign ";"]))
        (Cursor.at fresh (text ++ rest)) (Cursor.at false rest) := by
  cases h with
  | @mk g text hg hliteral =>
    obtain ⟨v, hwhole, hvalue, hlength, hstands⟩ := stands_of_literal hliteral false rest
    refine ⟨v, hwhole, hvalue, ?_, ?_⟩
    · simp only [List.length_append, List.length_cons]
      omega
    · have hbreak : ∀ c ∈ (text ++ ';' :: rest).head?, IsBreak c := by
        refine head_literal hliteral fun c hc => ?_
        cases hc
        decide
      have htarget := stands_target hname hg hbreak fresh
      have htext : name ++ (g ++ '=' :: (text ++ [';'])) ++ rest =
          name ++ (g ++ '=' :: (text ++ ';' :: rest)) := by simp
      rw [htext]
      exact htarget.append hstands

/-! ### Reading -/

/-- The statement is read, and gives the value to the name. -/
lemma reads_statement (hname : IsName name) (h : IsStatement name w text) (fresh : Bool)
    (rest : List Char) {d : Nat} (hd : 20 * text.length ≤ d) :
    (Cursor.at fresh (text ++ rest)).token ≠ .finish ∧
      ∃ st, Reads (statement d) (Cursor.at fresh (text ++ rest)) st (Cursor.at false rest) ∧
        st.values = [(.ofList name, w)] := by
  have hfree := hname.free
  cases h with
  | @assigned g text hg h =>
    obtain ⟨v, hwhole, hvalue, hlength, hstands⟩ :=
      stands_of_assignment hname h (fresh || g.any isLineEnd) rest
    rw [List.length_append] at hd
    obtain ⟨d, rfl⟩ := Nat.exists_eq_add_of_le' (show 8 ≤ d by omega)
    rw [List.append_assoc, at_blanks hg]
    generalize Cursor.at (fresh || g.any isLineEnd) (text ++ rest) = c at hstands ⊢
    obtain ⟨hword, hequals, hstands⟩ := hstands
    obtain ⟨b, hliteral, hend, hrest⟩ := hstands.of_append
    have hassigned := reads_value v hwhole (show 6 * v.tokens.length ≤ d + 4 by omega) hliteral
      ⟨_, by simp [stops], hend⟩
    have hreads := reads_assigned hword hfree hequals hassigned hend
    refine ⟨by simp [hword], _, hrest ▸ hreads, ?_⟩
    simp [Statement.values, value?_expressionOf v hwhole hvalue, targetNames]
  | @declared g g' text hg hg' hne h =>
    obtain ⟨v, hwhole, hvalue, hlength, hstands⟩ :=
      stands_of_assignment hname h (false || g'.any isLineEnd) rest
    rw [List.length_append, List.length_append, List.length_append] at hd
    obtain ⟨d, rfl⟩ := Nat.exists_eq_add_of_le' (show 3 ≤ d by omega)
    have hblank : ∀ c ∈ (g' ++ (text ++ rest)).head?, IsBreak c := by
      intro c hc
      cases g' with
      | nil => exact absurd rfl hne
      | cons b g' =>
        cases hc
        exact isBreak_of_isGap (hg' c (by simp))
    obtain ⟨hvar, hplace⟩ := stands_keyword (c := 'v') (w := ['a', 'r']) (by decide) (by decide)
      hblank (fresh || g.any isLineEnd)
    have htext : g ++ ("var".toList ++ (g' ++ text)) ++ rest =
        g ++ ('v' :: ['a', 'r'] ++ (g' ++ (text ++ rest))) := by simp
    rw [htext, at_blanks hg]
    rw [at_blanks hg'] at hplace
    generalize Cursor.at (fresh || g.any isLineEnd) _ = c at hvar hplace ⊢
    rw [← hplace] at hstands
    obtain ⟨hword, hequals, hstands⟩ := hstands
    obtain ⟨b, hliteral, hend, hrest⟩ := hstands.of_append
    have hassigned := reads_value v hwhole (show 6 * v.tokens.length ≤ d + 1 by omega) hliteral
      ⟨_, by simp [stops], hend⟩
    have hreads := reads_declared hvar hword hfree hequals hassigned hend
    refine ⟨by simp [hvar], _, hrest ▸ hreads, ?_⟩
    simp [Statement.values, value?_expressionOf v hwhole hvalue]

lemma IsStatement.length_pos (h : IsStatement name w text) : 0 < text.length := by
  cases h with
  | assigned hg h =>
    cases h
    simp
  | declared hg hg' hne h => simp

/-- All statements of a script are read, and give their values to the name. -/
lemma reads_script {ws : List Value} (hname : IsName name) (h : IsScript name ws text)
    (fresh : Bool) {d : Nat} (hd : 20 * (text.length + 1) ≤ d) :
    ∃ program c', Reads (statements d) (Cursor.at fresh text) program c' ∧
      program.flatMap Statement.values = ws.map fun w => (.ofList name, w) := by
  induction h generalizing fresh d with
  | @last g hg =>
    obtain ⟨d, rfl⟩ := Nat.exists_eq_add_of_le' (show 1 ≤ d by omega)
    refine ⟨[], Cursor.at (fresh || g.any isLineEnd) [], ?_, rfl⟩
    have hplace := at_blanks hg fresh []
    rw [List.append_nil] at hplace
    rw [hplace, statements]
    exact (reads_here _).bind (reads_pure _ _)
  | @more w ws s t hs _ ih =>
    obtain ⟨d, rfl⟩ := Nat.exists_eq_add_of_le' (show 1 ≤ d by omega)
    rw [List.length_append] at hd
    obtain ⟨hgoes, st, hst, hvalues⟩ := reads_statement hname hs fresh t (d := d) (by omega)
    have hsize := hs.length_pos
    obtain ⟨program, c', hprogram, hmore⟩ := ih false (d := d) (by omega)
    refine ⟨st :: program, c', ?_, by simp [hvalues, hmore]⟩
    rw [statements]
    refine (reads_here _).bind ?_
    rw [if_neg (by simpa using hgoes)]
    exact hst.bind (hprogram.bind (reads_pure _ _))

/-- A line that names an interpreter starts with its mark. -/
lemma start_of_head {source : String} (h : ∀ c ∈ source.toList.head?, c ≠ '#') :
    Cursor.start source = Cursor.at true source.toList := by
  have hhead : source.toList.take 2 ≠ ['#', '!'] := by
    intro htake
    have hfirst := congrArg List.head? htake
    rw [List.head?_take, if_neg (by decide)] at hfirst
    exact h '#' hfirst rfl
  rw [Cursor.start, if_neg (by simpa using hhead)]

lemma head_script {ws : List Value} (hname : IsName name) (h : IsScript name ws text) :
    ∀ c ∈ text.head?, c ≠ '#' := by
  have hblank : ∀ c, Json.isGap c → c ≠ '#' := by
    rintro c hc rfl
    cases hc
  cases h with
  | @last g hg =>
    have hhead := forall_head_blanks hg hblank (show ∀ c ∈ ([] : List Char).head?, c ≠ '#' by simp)
    rwa [List.append_nil] at hhead
  | more hs _ =>
    cases hs with
    | assigned hg h =>
      obtain ⟨-, -⟩ := h
      rw [List.append_assoc, List.append_assoc]
      exact forall_head_blanks hg hblank (hname.head _)
    | declared hg _ _ _ =>
      rw [List.append_assoc]
      refine forall_head_blanks hg hblank fun c hc => ?_
      cases hc
      decide

/-- A script does not start with a line that names its interpreter. -/
lemma start_script {ws : List Value} {source : String} (hname : IsName name)
    (h : IsScript name ws source.toList) : Cursor.start source = Cursor.at true source.toList :=
  start_of_head (head_script hname h)

/-- The assignments of a script give their values to the name, one after the other. -/
theorem valuesOf_script {ws : List Value} {source : String} (hname : IsName name)
    (h : IsScript name ws source.toList) :
    valuesOf source = ws.map fun w => (.ofList name, w) := by
  obtain ⟨program, c', hreads, hvalues⟩ := reads_script hname h true
    (d := 20 * (source.length + 5)) (by rw [String.length_toList]; omega)
  have hprogram : Program.ofText? source = some program := by
    unfold Reads at hreads
    rw [Program.ofText?, start_script hname h, StateT.run, hreads, Option.map_some]
  rw [valuesOf, hprogram]
  exact hvalues

end

end Estate.Script
