import Estate.Proofs.Json.Meaning
import Estate.Proofs.Script.Agreement

/-!
JSON in scripts.

A JSON text is an expression, and it may also stand in a string literal that is parsed when the
script runs. Either way a variable that it is assigned to gets the value that the text writes.
-/

namespace Estate.Script

open Json (Value Term Spells Spaced)

/-! ### Calls of the parser -/

/-- The call that parses a text. -/
def parseOf (s : String) : Expression := .call (.member (.name "JSON") "parse") [.text (some s)]

section

variable {c c' c'' : Cursor} {e e' : Expression} {d : Nat}

lemma arrow_json (ht : c.token = .word "JSON") (hnext : c.next.token = .sign ".") :
    Refuses (arrow true (d + 1)) c := by
  have hexpect : Refuses (expectSign "=>") c.next := expectSign_other (by simp [hnext])
  rw [arrow]
  refine (reads_get c).refuses_bind ((isWord_other (by simp [ht])).refuses_bind ?_)
  rw [Bool.false_and, if_neg Bool.false_ne_true]
  refine (reads_here c).refuses_bind ?_
  rw [ht]
  exact (takeName_here ht (by decide)).discard.refuses_bind hexpect.bind

lemma primary_json (ht : c.token = .word "JSON") :
    Reads (primary (d + 1)) c (.name "JSON") c.next := by
  rw [primary]
  refine (reads_get c).bind ?_
  rw [ht]
  exact (takeName_here ht (by decide)).bind (reads_pure _ _)

lemma operand_json (ht : c.token = .word "JSON") (h : Reads (postfixed d) c e c') :
    Reads (operand (d + 1)) c e c' := by
  rw [operand]
  refine (reads_get c).bind ?_
  rw [ht]
  exact h

lemma suffixes_member {name : String} (hpoint : c.token = .sign ".")
    (hname : c.next.token = .word name) (hne : name ≠ "#")
    (h : Reads (suffixes true (.member e name) d) c.next.next e' c') :
    Reads (suffixes true e (d + 1)) c e' c' := by
  have htake : Reads takeAnyName c.next name c.next.next := by
    refine (reads_here c.next).bind ?_
    rw [hname]
    exact (reads_advance c.next).bind (reads_pure _ _)
  rw [suffixes]
  refine (reads_here c).bind ?_
  rw [hpoint]
  refine (reads_advance c).bind (htake.bind ?_)
  rwa [if_neg (by simpa using hne)]

lemma suffixes_call {list : List Expression} (hopen : c.token = .sign "(")
    (hlist : Reads (arguments d) c.next list c')
    (h : Reads (suffixes true (.call e list) d) c' e' c'') :
    Reads (suffixes true e (d + 1)) c e' c'' := by
  rw [suffixes]
  refine (reads_here c).bind ?_
  rw [hopen]
  exact (reads_advance c).bind (hlist.bind h)

lemma arguments_one (hopen : OpensItem c.token) (hne : c.token ≠ .sign ")")
    (h : Reads (assignment true d) c e c') (hclose : c'.token = .sign ")") :
    Reads (arguments (d + 1)) c [e] c'.next := by
  rw [arguments]
  refine (takeSign_other hne).bind ((takeSign_other hopen.spread).discard.bind (h.bind ?_))
  refine (takeSign_other (by simp [hclose])).bind ?_
  exact (expectSign_here hclose).bind (reads_pure _ _)

lemma reads_parse {s : String} (h : Stands [.word "JSON", .sign ".", .word "parse", .sign "(",
    .text (some s), .sign ")"] c c') (hstops : Stops c'.token) :
    Reads (assignment true (d + 12)) c (parseOf s) c' := by
  obtain ⟨hjson, hpoint, hparse, hopen, htext, hclose, rfl⟩ := h
  have hargument : Reads (assignment true (d + 5)) c.next.next.next.next (.text (some s)) _ :=
    assignment_atom (by rw [htext]; exact .text _) ⟨")", by simp [stops], hclose⟩
  have hlist : Reads (arguments (d + 6)) c.next.next.next.next [.text (some s)] _ :=
    arguments_one (by constructor <;> simp [htext]) (by simp [htext]) hargument hclose
  have hcall : Reads (suffixes true (.member (.name "JSON") "parse") (d + 7)) c.next.next.next
      (parseOf s) _ := suffixes_call hopen hlist (suffixes_ends hstops.ends)
  have hpostfixed : Reads (postfixed (d + 9)) c (parseOf s) _ :=
    postfixed_suffixed (primary_json hjson) (suffixes_member hpoint hparse (by decide) hcall)
      hstops.ends
  exact assignment_stops (arrow_json hjson hpoint) (operand_json hjson hpostfixed) hstops

end

/-! ### String literals -/

/-- A string literal is one of the text, whatever follows it. -/
structure Denotes (literal : List Char) (s : String) : Prop where
  quoted : ∃ q cs, literal = q :: cs ∧ (q = '"' ∨ q = '\'')
  read : ∀ rest, tokenAt (literal ++ rest) = (.text (some s), literal.length)

lemma textFrom_plains {quote : Char} {cs : List Char}
    (h : ∀ c ∈ cs, c ≠ quote ∧ c ≠ '\\' ∧ c ≠ '\n' ∧ c ≠ '\r') (rest : List Char) :
    textFrom quote 0 (cs ++ quote :: rest) = some (cs.map Char.toNat, cs.length + 1) := by
  induction cs with
  | nil => simp [textFrom]
  | cons c cs ih =>
    obtain ⟨hq, hb, hn, hr⟩ := h c (by simp)
    have hrest := ih fun d hd => h d (by simp [hd])
    simp [textFrom, hq, hb, hn, hr, hrest]

lemma ofCodes?_toNat (cs : List Char) : ofCodes? (cs.map Char.toNat) = some cs := by
  induction cs with
  | nil => rfl
  | cons c cs ih =>
    rw [List.map_cons, ofCodes?_whole (Text.toNat_not_surrogate c), ih, Option.map_some,
      Char.ofNat_toNat]

/-- A text is read as it stands between quotes if there is nothing in it to escape. -/
lemma denotes_plain {quote : Char} (hquote : quote = '"' ∨ quote = '\'') {s : String}
    (h : ∀ c ∈ s.toList, c ≠ quote ∧ c ≠ '\\' ∧ c ≠ '\n' ∧ c ≠ '\r') :
    Denotes (quote :: (s.toList ++ [quote])) s := by
  refine ⟨⟨quote, _, rfl, hquote⟩, fun rest => ?_⟩
  have htext := textFrom_plains h rest
  rcases hquote with rfl | rfl <;> simp [tokenAt, htext, ofCodes?_toNat]

/-- The JSON text of a text is a literal of it. -/
lemma denotes_quote (s : String) : Denotes (Json.quote s) s := by
  refine ⟨⟨'"', _, rfl, .inl rfl⟩, fun rest => ?_⟩
  have hspells : Spells (Json.quote s) (.text (some s)) :=
    (Json.Token.text (some s)).spells_print rfl (by simp)
  have htoken := tokenAt_literal (Json.quotable_flatMap s.toList) hspells rest
  simpa [Json.quote] using htoken

lemma Denotes.stands {literal : List Char} {s : String} (h : Denotes literal s) (fresh : Bool)
    (rest : List Char) :
    Stands [.text (some s)] (Cursor.at fresh (literal ++ rest)) (Cursor.at false rest) := by
  have htoken := h.read rest
  obtain ⟨c, cs, rfl, hc⟩ := h.quoted
  have hstart : isLineEnd c = false ∧ isSpace c = false ∧ c ≠ '/' ∧ c ≠ '<' ∧ c ≠ '-' := by
    rcases hc with rfl | rfl <;> decide
  obtain ⟨hline, hspace, hslash, hangle, hdash⟩ := hstart
  have hstands : Stands [.text (some s)] (Cursor.at fresh (c :: cs ++ rest))
      (Cursor.at false ((c :: cs ++ rest).drop (c :: cs).length)) :=
    stands_one ⟨hline, hspace⟩ ⟨hslash, hangle, fun h => absurd h hdash⟩ htoken fresh
  rwa [List.drop_left] at hstands

/-- A call of the parser as a text. -/
def callText (literal : List Char) : List Char := "JSON.parse(".toList ++ (literal ++ [')'])

lemma callText_append (literal rest : List Char) : callText literal ++ rest =
    'J' :: (['S', 'O', 'N'] ++
      '.' :: 'p' :: (['a', 'r', 's', 'e'] ++ '(' :: (literal ++ ')' :: rest))) := by
  have hcall : "JSON.parse(".toList = ['J', 'S', 'O', 'N', '.', 'p', 'a', 'r', 's', 'e', '('] := rfl
  unfold callText
  rw [hcall, List.append_assoc, List.append_assoc]
  rfl

lemma Denotes.stands_call {literal : List Char} {s : String} (h : Denotes literal s) (fresh : Bool)
    (rest : List Char) :
    Stands [.word "JSON", .sign ".", .word "parse", .sign "(", .text (some s), .sign ")"]
      (Cursor.at fresh (callText literal ++ rest)) (Cursor.at false rest) := by
  have hname {c d : Char} {w : List Char} (hc : isNameStart c) (hw : w.all isNamePart = true)
      (hd : isNamePart d = false ∧ d ≠ '\\') (fresh : Bool) (more : List Char) :
      Stands [.word (.ofList (c :: w))] (Cursor.at fresh (c :: (w ++ d :: more)))
        (Cursor.at false (d :: more)) := by
    refine stands_name hc (List.all_eq_true.1 hw) (fun e he => ?_) fresh
    cases he
    exact hd
  have hsign {c : Char} {more : List Char} (hc : isLineEnd c = false ∧ isSpace c = false)
      (hcomment : c ≠ '/' ∧ c ≠ '<' ∧ c ≠ '-')
      (ht : tokenAt (c :: more) = (.sign (.singleton c), 1)) :
      Stands [.sign (.singleton c)] (Cursor.at false (c :: more)) (Cursor.at false more) :=
    stands_one hc ⟨hcomment.1, hcomment.2.1, fun h => absurd h hcomment.2.2⟩ ht false
  have hobject := hname (c := 'J') (w := ['S', 'O', 'N']) (d := '.') (by decide) (by decide)
    (by decide) fresh ('p' :: (['a', 'r', 's', 'e'] ++ '(' :: (literal ++ ')' :: rest)))
  have hpoint : Stands [.sign "."]
      (Cursor.at false ('.' :: 'p' :: (['a', 'r', 's', 'e'] ++ '(' :: (literal ++ ')' :: rest))))
      (Cursor.at false ('p' :: (['a', 'r', 's', 'e'] ++ '(' :: (literal ++ ')' :: rest)))) :=
    hsign (by decide) (by decide) (tokenAt_point (by decide) (by decide))
  have hmethod := hname (c := 'p') (w := ['a', 'r', 's', 'e']) (d := '(') (by decide) (by decide)
    (by decide) false (literal ++ ')' :: rest)
  have hopen : Stands [.sign "("] (Cursor.at false ('(' :: (literal ++ ')' :: rest)))
      (Cursor.at false (literal ++ ')' :: rest)) := hsign (by decide) (by decide) rfl
  have hclose : Stands [.sign ")"] (Cursor.at false (')' :: rest)) (Cursor.at false rest) :=
    hsign (by decide) (by decide) rfl
  rw [callText_append]
  have hrest := hmethod.append (hopen.append ((h.stands false _).append hclose))
  exact hobject.append (hpoint.append hrest)

/-! ### Assigned values -/

/-- The script that assigns an expression to a name. -/
def assigning (name : String) (text : List Char) : String :=
  .ofList (name.toList ++ (" = ".toList ++ (text ++ [';'])))

/-- The name has the value of the expression that the text is read as. -/
lemma assigned?_assigning {name : String} {text : List Char} {e : Expression} {v : Value}
    {c : Cursor} (hname : IsName name.toList) (hreads : ∀ d, 20 * text.length ≤ d →
      Reads (assignment true d) (Cursor.at false (' ' :: (text ++ [';']))) e c)
    (hend : c.token = .sign ";") (hlast : c.next = Cursor.at false [])
    (hvalue : e.value? = some v) :
    assigned? (assigning name text) name = some v := by
  have hfree : name ∉ reservedWords := by
    rw [← String.ofList_toList (s := name)]
    exact hname.free
  have hblank : Json.Blanks [' '] := by simp [Json.Blanks, Json.isGap]
  have hbreak : ∀ d ∈ (' ' :: (text ++ [';'])).head?, IsBreak d := by
    intro d hd
    cases hd
    decide
  obtain ⟨hword, hequals, hplace⟩ := stands_target hname hblank hbreak true
  rw [String.ofList_toList] at hword
  have hsource : (assigning name text).toList =
      name.toList ++ ([' '] ++ '=' :: ' ' :: (text ++ [';'])) := String.toList_ofList
  have hstart : Cursor.start (assigning name text) = Cursor.at true (name.toList ++
      ([' '] ++ '=' :: ' ' :: (text ++ [';']))) := by
    rw [start_of_head (by rw [hsource]; exact hname.head _), hsource]
  have hlength : text.length + 4 ≤ (assigning name text).length := by
    rw [← String.length_toList, hsource]
    simp only [List.length_append, List.length_cons, List.length_nil]
    omega
  generalize Cursor.at true _ = c₀ at hword hequals hplace hstart
  rw [← hplace] at hreads
  have hstatement : Reads (statement (20 * ((assigning name text).length + 5) - 1)) c₀
      (.expression (.assign "=" (.name name) e)) (Cursor.at false []) := by
    obtain ⟨d, hd⟩ := Nat.exists_eq_add_of_le'
      (show 8 ≤ 20 * ((assigning name text).length + 5) - 1 by omega)
    rw [hd, ← hlast]
    exact reads_assigned hword hfree hequals (hreads (d + 4) (by omega)) hend
  have hprogram : Program.ofText? (assigning name text) =
      some [.expression (.assign "=" (.name name) e)] := by
    obtain ⟨d, hd⟩ := Nat.exists_eq_add_of_le'
      (show 2 ≤ 20 * ((assigning name text).length + 5) by omega)
    rw [hd] at hstatement
    have hfinish : Reads (statements (d + 1)) (Cursor.at false []) [] (Cursor.at false []) := by
      rw [statements]
      exact (reads_here _).bind (reads_pure _ _)
    have hall : Reads (statements (d + 2)) c₀ [.expression (.assign "=" (.name name) e)]
        (Cursor.at false []) := by
      rw [statements]
      refine (reads_here c₀).bind ?_
      rw [if_neg (by simp [hword])]
      exact hstatement.bind (hfinish.bind (reads_pure _ _))
    unfold Reads at hall
    rw [Program.ofText?, hstart, hd, StateT.run, hall, Option.map_some]
  have hvalues : valuesOf (assigning name text) = [v].map fun w => (name, w) := by
    rw [valuesOf, hprogram]
    simp [Statement.values, hvalue, targetNames]
  rw [assigned?, hvalues, Keyed.get?_ofList_last]
  rfl

/-- A JSON text of the value whose numbers are integers that doubles tell apart; the members of an
object may be in any order. -/
def IsText (text : List Char) (v : Value) : Prop :=
  ∃ u ws, (Term.ofValue u).Means v ∧ (∀ t ∈ u.tokens, Whole t) ∧ List.Forall₂ Spells ws u.tokens ∧
    Spaced ws text

section

variable {v : Value}

/-- The expression for a text has the value, however deep it is nested. -/
lemma value?_of_means {u : Value} (hmeans : (Term.ofValue u).Means v)
    (hwhole : ∀ t ∈ u.tokens, Whole t) : (expressionOf u).value? = some v :=
  value?_expressionOf u hwhole (hmeans.value? (Nat.le_refl _))

lemma readsBack_of_whole (hwhole : ∀ t ∈ v.tokens, Whole t) {n : Json.Number}
    (hn : .number (some n) ∈ v.tokens) : ∃ i : Int, n = .int i ∧ i.natAbs ≤ 2 ^ 53 := by
  obtain ⟨i, hi, hrange⟩ := hwhole _ hn
  exact ⟨i, Option.some.inj hi, hrange⟩

lemma inRange_of_whole (hwhole : ∀ t ∈ v.tokens, Whole t) : v.InRange := by
  intro n hn
  obtain ⟨i, rfl, hrange⟩ := readsBack_of_whole hwhole hn
  constructor <;> omega

lemma exact_of_whole (hwhole : ∀ t ∈ v.tokens, Whole t) : v.Exact := by
  intro x hx
  obtain ⟨i, hi, -⟩ := readsBack_of_whole hwhole hx
  cases hi

lemma isText_toText (hsorted : v.isSorted) (hwhole : ∀ t ∈ v.tokens, Whole t) :
    IsText v.toText.toList v := by
  refine ⟨v, v.words, Value.means_ofValue hsorted, hwhole,
    Value.spells_words (inRange_of_whole hwhole) (exact_of_whole hwhole), ?_⟩
  rw [Value.toText, String.toList_ofList]
  exact v.spaced_render

/-- JSON reads the compact text of a value that is not nested too deep. -/
lemma ofText?_toText (hsorted : v.isSorted) (hwhole : ∀ t ∈ v.tokens, Whole t)
    (hdepth : (Term.ofValue v).depth ≤ Json.depthLimit) : Value.ofText? v.toText = some v :=
  Json.Serialises.ofText? ⟨.ofValue v,
    Value.ofText?_toText (inRange_of_whole hwhole) (exact_of_whole hwhole), hdepth,
    Value.means_ofValue hsorted⟩

lemma IsText.assigned? {text : List Char} {name : String} (h : IsText text v)
    (hname : IsName name.toList) : assigned? (assigning name text) name = some v := by
  obtain ⟨u, ws, hmeans, hwhole, hws, hs⟩ := h
  have hshaped : List.Forall₂ Json.Shaped ws u.tokens := hws.imp fun _ _ h => h.shape
  have hchain : ws.IsChain Json.Apart :=
    (Json.chain_of_shaped hshaped u.isChain_tokens).imp fun _ _ h => h.apart
  have hblank : Json.Blanks [' '] := by simp [Json.Blanks, Json.isGap]
  have hbreak : ∀ c ∈ [';'].head?, IsBreak c := by
    intro c hc
    cases hc
    decide
  obtain ⟨fresh, hstands⟩ :=
    stands_spaced hs hws hchain hwhole hbreak (false || [' '].any isLineEnd)
  rw [← at_blanks hblank] at hstands
  obtain ⟨hend, hlast⟩ : Stands [.sign ";"] (Cursor.at fresh [';']) (Cursor.at false []) :=
    stands_mark (.inr rfl) fresh
  have hlength : u.tokens.length ≤ text.length := by
    rw [← hws.length_eq]
    exact length_le_of_spaced hs (Json.word_of_shaped hshaped)
  refine assigned?_assigning hname (fun d hd => ?_) hend hlast (value?_of_means hmeans hwhole)
  exact reads_value u hwhole (by omega) hstands ⟨";", by simp [stops], hend⟩

lemma Denotes.assigned? {literal : List Char} {s name : String} (h : Denotes literal s)
    (hname : IsName name.toList) (hread : Value.ofText? s = some v) :
    assigned? (assigning name (callText literal)) name = some v := by
  have hblank : Json.Blanks [' '] := by simp [Json.Blanks, Json.isGap]
  have hstands := h.stands_call (false || [' '].any isLineEnd) [';']
  rw [← at_blanks hblank] at hstands
  obtain ⟨hend, hlast⟩ : Stands [.sign ";"] (Cursor.at false [';']) (Cursor.at false []) :=
    stands_mark (.inr rfl) false
  have hlength : 12 ≤ (callText literal).length := by
    have happend := congrArg List.length (callText_append literal [])
    simp only [List.length_append, List.length_cons, List.length_nil] at happend
    omega
  refine assigned?_assigning (e := parseOf s) hname (fun d hd => ?_) hend hlast hread
  obtain ⟨d, rfl⟩ := Nat.exists_eq_add_of_le' (show 12 ≤ d by omega)
  exact reads_parse hstands ⟨";", by simp [stops], hend⟩

end

/-- **JSON in a script is read as itself**: a variable that is assigned a JSON text, or the outcome
of parsing a string literal of it, has the value that the text writes. Expressions may be nested as
deep as they like; the parser has to read back what it has written, as it does up to its limit. -/
theorem json_in_script {v : Value} (hsorted : v.isSorted) (hwhole : ∀ t ∈ v.tokens, Whole t) :
    ((expressionOf v).value? = some v ∧ IsText v.toText.toList v ∧
      ∀ name text, IsName name.toList → IsText text v →
        assigned? (assigning name text) name = some v) ∧
    (((Term.ofValue v).depth ≤ Json.depthLimit → Value.ofText? v.toText = some v) ∧
      (Value.ofText? v.toText = some v → (parseOf v.toText).value? = some v ∧
        ∀ name literal, IsName name.toList → Denotes literal v.toText →
          assigned? (assigning name (callText literal)) name = some v)) := by
  refine ⟨⟨?_, isText_toText hsorted hwhole, fun name text hname h => h.assigned? hname⟩, ?_, ?_⟩
  · exact value?_of_means (Value.means_ofValue hsorted) hwhole
  · exact ofText?_toText hsorted hwhole
  · exact fun hread => ⟨hread, fun name literal hname h => h.assigned? hname hread⟩

/-- Two members, one of them a list with a negative number. -/
def twoMembers : Value :=
  .object [("a", .array [.number (.int 1), .number (.int (-2))]), ("b", .string "ok")]

theorem json_in_script_two :
    assigned? (assigning "x" twoMembers.toText.toList) "x" = some twoMembers ∧
      assigned? (assigning "x" (callText (Json.quote twoMembers.toText))) "x" = some twoMembers ∧
      assigned? "x = JSON.parse('\x7b\"a\":[1,-2],\"b\":\"ok\"\x7d');" "x" = some twoMembers := by
  have hname : IsName "x".toList := .mk (w := []) (by decide) (by simp) (by decide)
  have hchars : twoMembers.toText.toList.all fun c =>
      c ≠ '\'' ∧ c ≠ '\\' ∧ c ≠ '\n' ∧ c ≠ '\r' := by decide
  have hplain : Denotes ('\'' :: (twoMembers.toText.toList ++ ['\''])) twoMembers.toText :=
    denotes_plain (.inr rfl) fun c hc => of_decide_eq_true (List.all_eq_true.1 hchars c hc)
  obtain ⟨⟨-, htext, hwritten⟩, hreads, hparsed⟩ :=
    json_in_script (v := twoMembers) (by decide) (by decide)
  obtain ⟨-, hparsed⟩ := hparsed (hreads (by decide))
  refine ⟨hwritten "x" _ hname htext, hparsed "x" _ hname (denotes_quote _), ?_⟩
  have hsource : assigning "x" (callText ('\'' :: (twoMembers.toText.toList ++ ['\'']))) =
      "x = JSON.parse('\x7b\"a\":[1,-2],\"b\":\"ok\"\x7d');" := by decide +kernel
  rw [← hsource]
  exact hparsed "x" _ hname hplain

end Estate.Script
