import Estate.Proofs.Json.Assembly
import Estate.Proofs.Json.Atoms
import Estate.Proofs.Lenient.Found

/-!
What the reader of JSON accepts: a text that has tokens consists of words that spell them, and
tokens that make a term are the tokens of the term.
-/

namespace Estate.Json

open Lenient (split_literal scanOn_unfinished)

/-! ### Words -/

/-- The tokens that a scan finds are spelled by the words of the text. -/
def Spelled (t : List Char) (acc : List Token) (last : Scan) : Prop :=
  ∃ ws toks, List.Forall₂ Spells ws toks ∧ Spaced ws t ∧ last = ⟨toks.reverse ++ acc, .gap⟩

section

variable {t : List Char} {acc : List Token} {last : Scan}

lemma Spelled.blank {c : Char} (hc : isGap c) (h : Spelled t acc last) :
    Spelled (c :: t) acc last := by
  obtain ⟨ws, toks, hws, hs, hlast⟩ := h
  refine ⟨ws, toks, hws, ?_, hlast⟩
  cases hs with
  | last hg => exact .last (List.forall_mem_cons.2 ⟨hc, hg⟩)
  | @word g w s ws hg hs =>
    have h : Spaced (w :: ws) (c :: g ++ (w ++ s)) := .word (List.forall_mem_cons.2 ⟨hc, hg⟩) hs
    exact h

lemma Spelled.word {w : List Char} {tok : Token} (hw : Spells w tok)
    (h : Spelled t (tok :: acc) last) : Spelled (w ++ t) acc last := by
  obtain ⟨ws, toks, hws, hs, rfl⟩ := h
  exact ⟨w :: ws, tok :: toks, .cons hw hws, .word (g := []) (by simp [Blanks]) hs, by simp⟩

lemma exists_mark {c : Char} (h : isMark c) : ∃ tok : Token, tok.mark? = some c := by
  rcases mark_cases h with rfl | rfl | rfl | rfl | rfl | rfl
  · exact ⟨.openBrace, rfl⟩
  · exact ⟨.closeBrace, rfl⟩
  · exact ⟨.openBracket, rfl⟩
  · exact ⟨.closeBracket, rfl⟩
  · exact ⟨.colon, rfl⟩
  · exact ⟨.comma, rfl⟩

lemma Spelled.mark {c : Char} {tok : Token} (hc : tok.mark? = some c)
    (ih : ∀ {acc last}, scanOn ⟨acc, .gap⟩ t = some last → Spelled t acc last)
    (h : scanOn ⟨acc, .gap⟩ (c :: t) = some last) : Spelled (c :: t) acc last := by
  have hstep : Scan.step ⟨acc, .gap⟩ c = some ⟨tok :: acc, .gap⟩ := by
    cases tok <;> cases hc <;> rfl
  have hword : scanOn ⟨acc, .gap⟩ [c] = some ⟨tok :: acc, .gap⟩ := by
    rw [scanOn_cons, hstep]
    rfl
  rw [scanOn_cons, hstep, Option.bind_some] at h
  exact .word (w := [c]) (.of_scanOn (.mark hc) hword) (ih h)

/-- A number or keyword goes as far as its characters do. -/
lemma Spelled.run {kind : Char → Bool} {mode : List Char → Mode} (hr : Run kind mode) {c : Char}
    (hc : isBare c) (hstart : Scan.step ⟨acc, .gap⟩ c = some ⟨acc, mode [c]⟩)
    (ih : ∀ {rest acc last}, rest.length < (c :: t).length →
      scanOn ⟨acc, .gap⟩ rest = some last → Spelled rest acc last)
    (h : scanOn ⟨acc, .gap⟩ (c :: t) = some last) : Spelled (c :: t) acc last := by
  obtain ⟨tok, hsettle, hrest⟩ := hr.read hstart h
  have hsplit : c :: t = (c :: t.takeWhile kind) ++ t.dropWhile kind := by
    rw [List.cons_append, List.takeWhile_append_dropWhile]
  have hlength : (t.dropWhile kind).length < (c :: t).length :=
    Nat.lt_succ_of_le (List.dropWhile_sublist kind).length_le
  obtain ⟨tok', hatomic, heq⟩ := hr.settle _ _ _ hsettle
  cases heq
  have hbare : Bare (c :: t.takeWhile kind) := by
    refine ⟨by simp, fun d hd => ?_⟩
    rcases List.mem_cons.1 hd with rfl | hd
    · exact hc
    · exact hr.bare d (List.mem_takeWhile_imp hd)
  have hword : scanOn ⟨acc, .gap⟩ (c :: t.takeWhile kind) = some ⟨tok :: acc, .gap⟩ := by
    rw [scanOn_cons, hstart, Option.bind_some, scanOn,
      hr.foldlM fun d hd => List.mem_takeWhile_imp hd, Option.bind_some, ← List.reverse_cons]
    exact hsettle
  rw [hsplit]
  exact .word (.of_scanOn (.bare hbare hatomic) hword) (ih hlength hrest)

/-- A literal goes up to the quote that ends it. -/
lemma Spelled.literal
    (ih : ∀ {rest acc last}, rest.length < ('"' :: t).length →
      scanOn ⟨acc, .gap⟩ rest = some last → Spelled rest acc last)
    (h : scanOn ⟨acc, .gap⟩ ('"' :: t) = some last) : Spelled ('"' :: t) acc last := by
  have hquote : Scan.step ⟨acc, .gap⟩ '"' = some ⟨acc, .text []⟩ := rfl
  have hinside : Scan.Inside ⟨acc, .text []⟩ := trivial
  rw [scanOn_cons, hquote, Option.bind_some] at h
  rcases split_literal t with hopen | ⟨body, rest, rfl, hbody⟩
  · rw [scanOn_unfinished hopen hinside] at h
    cases h
  · rw [scanOn_quotable hbody hinside] at h
    obtain ⟨s, hs, h⟩ := Option.bind_eq_some_iff.1 h
    obtain ⟨x, rfl⟩ := scanOn_literal hbody hinside hs
    have hlength : rest.length < ('"' :: (body ++ '"' :: rest)).length := by
      simp only [List.length_cons, List.length_append]
      omega
    have hword : Spells ('"' :: (body ++ ['"'])) (.text x) := .of_scanOn (.literal hbody) hs
    have hspelled := Spelled.word hword (ih hlength h)
    rwa [List.cons_append, List.append_assoc] at hspelled

lemma spelled_of_scanOn (h : scanOn ⟨acc, .gap⟩ t = some last) : Spelled t acc last := by
  induction hn : t.length using Nat.strongRecOn generalizing t acc last with
  | ind n ih =>
    subst hn
    cases t with
    | nil =>
      cases h
      exact ⟨[], [], .nil, .last (by simp [Blanks]), rfl⟩
    | cons c t =>
      have hmore {rest : List Char} {acc : List Token} {last : Scan}
          (hlength : rest.length < (c :: t).length) (h : scanOn ⟨acc, .gap⟩ rest = some last) :
          Spelled rest acc last := ih _ hlength h rfl
      cases hgap : isGap c with
      | true =>
        rw [← List.singleton_append, scanOn_blanks (by simpa [Blanks] using hgap)] at h
        exact .blank hgap (hmore (by simp) h)
      | false =>
        cases hmark : isMark c with
        | true =>
          obtain ⟨tok, htok⟩ := exists_mark hmark
          exact .mark htok (fun h => hmore (by simp) h) h
        | false =>
          by_cases hquote : c = '"'
          · subst hquote
            exact .literal hmore h
          · have hstart := Scan.start_other hgap hmark hquote ⟨acc, .gap⟩
            split at hstart
            · next hnumber => exact .run run_number (isBare_of_number_start hnumber) hstart hmore h
            · split at hstart
              · next hkeyword =>
                have hbare : isBare c := by simp [isBare, hkeyword]
                exact .run run_keyword hbare hstart hmore h
              · rw [scanOn_cons, Scan.step_of_gap rfl, hstart] at h
                cases h

end

/-- A text that has tokens consists of words that spell them. -/
theorem exists_words {t : List Char} {toks : List Token} (h : tokens? t = some toks) :
    ∃ ws, List.Forall₂ Spells ws toks ∧ Spaced ws t := by
  rw [tokens?_eq] at h
  obtain ⟨last, hlast, rfl⟩ := Option.map_eq_some_iff.1 h
  obtain ⟨ws, toks, hws, hs, rfl⟩ := spelled_of_scanOn hlast
  exact ⟨ws, by simpa using hws, hs⟩

/-! ### Terms -/

/-- Parts with commas between. -/
def joinParts : List (List Token) → List Token
  | [] => []
  | [p] => p
  | p :: q :: rest => p ++ .comma :: joinParts (q :: rest)

/-- Parts each with a comma behind. -/
def endParts (parts : List (List Token)) : List Token := parts.flatMap (· ++ [.comma])

lemma joinParts_concat (parts : List (List Token)) (p : List Token) :
    joinParts (parts ++ [p]) = endParts parts ++ p := by
  induction parts with
  | nil => rfl
  | cons q parts ih =>
    obtain ⟨r, rest, hrest⟩ : ∃ r rest, parts ++ [p] = r :: rest :=
      List.exists_cons_of_ne_nil (by simp)
    rw [List.cons_append, hrest, joinParts, ← hrest, ih]
    simp [endParts]

lemma joinParts_comma {parts : List (List Token)} (h : parts ≠ []) :
    joinParts parts ++ [.comma] = endParts parts := by
  rcases List.eq_nil_or_concat parts with rfl | ⟨more, p, rfl⟩
  · exact absurd rfl h
  · rw [List.concat_eq_append, joinParts_concat]
    simp [endParts]

mutual

/-- The tokens that write a term. -/
def Term.tokens : Term → List Token
  | .null => [.null]
  | .bool b => [.bool b]
  | .number n => [.number n]
  | .text s => [.text s]
  | .array items => .openBracket :: (joinParts (itemParts items) ++ [.closeBracket])
  | .object ms => .openBrace :: (joinParts (memberParts ms) ++ [.closeBrace])

def itemParts : List Term → List (List Token)
  | [] => []
  | t :: rest => t.tokens :: itemParts rest

def memberParts : List (Option String × Term) → List (List Token)
  | [] => []
  | (k, t) :: rest => (.text k :: .colon :: t.tokens) :: memberParts rest

end

lemma itemParts_append (items more : List Term) :
    itemParts (items ++ more) = itemParts items ++ itemParts more := by
  induction items with
  | nil => rfl
  | cons t items ih => rw [List.cons_append, itemParts, itemParts, ih, List.cons_append]

lemma memberParts_append (ms more : List (Option String × Term)) :
    memberParts (ms ++ more) = memberParts ms ++ memberParts more := by
  induction ms with
  | nil => rfl
  | cons m ms ih =>
    obtain ⟨k, t⟩ := m
    rw [List.cons_append, memberParts, memberParts, ih, List.cons_append]

/-- The tokens before a value, which opened the frames that the value is in. -/
inductive Opened : List Frame → List Token → Prop where
  | outermost : Opened [] []
  | array {outer : List Frame} {ts : List Token} (items : List Term) (h : Opened outer ts) :
    Opened (.array items :: outer) (ts ++ .openBracket :: endParts (itemParts items.reverse))
  | object {outer : List Frame} {ts : List Token} (ms : List (Option String × Term))
    (key : Option String) (h : Opened outer ts) :
    Opened (.object ms key :: outer)
      (ts ++ .openBrace :: (endParts (memberParts ms.reverse) ++ [.text key, .colon]))

/-- The tokens that have been put together. -/
inductive Consumed : Assembly → List Token → Prop where
  | value {frames : List Frame} {ts : List Token} (h : Opened frames ts) :
    Consumed ⟨frames, .value⟩ ts
  | noItem {outer : List Frame} {ts : List Token} (h : Opened outer ts) :
    Consumed ⟨.array [] :: outer, .valueOrEnd⟩ (ts ++ [.openBracket])
  | items {outer : List Frame} {ts : List Token} (items : List Term) (hne : items ≠ [])
    (h : Opened outer ts) :
    Consumed ⟨.array items :: outer, .separator⟩
      (ts ++ .openBracket :: joinParts (itemParts items.reverse))
  | noMember {outer : List Frame} {ts : List Token} (key : Option String) (h : Opened outer ts) :
    Consumed ⟨.object [] key :: outer, .keyOrEnd⟩ (ts ++ [.openBrace])
  | members {outer : List Frame} {ts : List Token} (ms : List (Option String × Term))
    (hne : ms ≠ []) (key : Option String) (h : Opened outer ts) :
    Consumed ⟨.object ms key :: outer, .separator⟩
      (ts ++ .openBrace :: joinParts (memberParts ms.reverse))
  | key {outer : List Frame} {ts : List Token} (ms : List (Option String × Term))
    (key : Option String) (h : Opened outer ts) :
    Consumed ⟨.object ms key :: outer, .key⟩
      (ts ++ .openBrace :: endParts (memberParts ms.reverse))
  | colon {outer : List Frame} {ts : List Token} (ms : List (Option String × Term))
    (key key' : Option String) (h : Opened outer ts) :
    Consumed ⟨.object ms key' :: outer, .colon key⟩
      (ts ++ .openBrace :: (endParts (memberParts ms.reverse) ++ [.text key]))
  | done (t : Term) : Consumed ⟨[], .done t⟩ t.tokens

section

variable {frames : List Frame} {ts : List Token} {a b : Assembly} {tok : Token}

lemma Opened.put (h : Opened frames ts) (t : Term) :
    Consumed (Assembly.put frames t) (ts ++ t.tokens) := by
  cases h with
  | outermost => exact .done t
  | @array outer ts items h =>
    have hitems := Consumed.items (t :: items) (by simp) h
    rw [List.reverse_cons, itemParts_append, itemParts, itemParts, joinParts_concat,
      ← List.cons_append, ← List.append_assoc] at hitems
    exact hitems
  | @object outer ts ms key h =>
    have hmembers := Consumed.members ((key, t) :: ms) (by simp) none h
    rw [List.reverse_cons, memberParts_append, memberParts, memberParts,
      joinParts_concat] at hmembers
    simpa [Assembly.put] using hmembers

lemma Opened.begin (h : Opened frames ts) (hstep : Assembly.begin frames tok = some b) :
    Consumed b (ts ++ [tok]) := by
  cases tok <;> cases hstep
  case null => exact h.put .null
  case bool b => exact h.put (.bool b)
  case number n => exact h.put (.number n)
  case text s => exact h.put (.text s)
  case openBracket => exact .noItem h
  case openBrace => exact .noMember none h

/-- One more token is put together with those before. -/
lemma Consumed.step (h : Consumed a ts) (hstep : a.step tok = some b) :
    Consumed b (ts ++ [tok]) := by
  cases h with
  | value h => exact h.begin hstep
  | @noItem outer ts h =>
    by_cases hclose : tok = .closeBracket
    · subst hclose
      cases hstep
      simpa [Term.tokens, itemParts, joinParts] using h.put (.array [])
    · rw [Assembly.step_open (.inr rfl) _ hclose] at hstep
      exact (Opened.array [] h).begin hstep
  | @items outer ts items hne h =>
    have hparts : itemParts items.reverse ≠ [] := by
      obtain ⟨t, items, rfl⟩ := List.exists_cons_of_ne_nil hne
      simp [itemParts_append, itemParts]
    cases tok with
    | comma =>
      cases hstep
      have hvalue := Consumed.value (Opened.array items h)
      rwa [← joinParts_comma hparts, ← List.cons_append, ← List.append_assoc] at hvalue
    | closeBracket =>
      cases hstep
      simpa [Term.tokens] using h.put (.array items.reverse)
    | _ => cases hstep
  | @noMember outer ts key h =>
    cases tok with
    | closeBrace =>
      cases hstep
      simpa [Term.tokens, memberParts, joinParts] using h.put (.object [])
    | text s =>
      cases hstep
      simpa [memberParts, endParts] using Consumed.colon [] s key h
    | _ => cases hstep
  | @members outer ts ms hne key h =>
    have hparts : memberParts ms.reverse ≠ [] := by
      obtain ⟨m, ms, rfl⟩ := List.exists_cons_of_ne_nil hne
      simp [memberParts_append, memberParts]
    cases tok with
    | comma =>
      cases hstep
      have hkey := Consumed.key ms key h
      rwa [← joinParts_comma hparts, ← List.cons_append, ← List.append_assoc] at hkey
    | closeBrace =>
      cases hstep
      simpa [Term.tokens] using h.put (.object ms.reverse)
    | _ => cases hstep
  | @key outer ts ms key h =>
    cases tok with
    | text s =>
      cases hstep
      simpa using Consumed.colon ms s key h
    | _ => cases hstep
  | @colon outer ts ms key key' h =>
    cases tok with
    | colon =>
      cases hstep
      simpa using Consumed.value (Opened.object ms key h)
    | _ => cases hstep
  | done t => cases hstep

lemma Consumed.run {more : List Token} (h : Consumed a ts) (hrun : a.run more = some b) :
    Consumed b (ts ++ more) := by
  induction more generalizing a ts with
  | nil =>
    cases hrun
    rwa [List.append_nil]
  | cons tok more ih =>
    rw [Assembly.run_cons] at hrun
    obtain ⟨a', hstep, hrun⟩ := Option.bind_eq_some_iff.1 hrun
    simpa using ih (h.step hstep) hrun

end

/-- Tokens that make a term are the tokens that write it. -/
theorem tokens_of_ofTokens? {toks : List Token} {t : Term} (h : Term.ofTokens? toks = some t) :
    toks = t.tokens := by
  unfold Term.ofTokens? at h
  split at h
  · next hrun =>
    cases h
    have hconsumed : Consumed ⟨[], .done t⟩ ([] ++ toks) := (Consumed.value .outermost).run hrun
    rw [List.nil_append] at hconsumed
    cases hconsumed
    rfl
  · cases h

/-! ### Values -/

mutual

/-- A term that has a value writes one, though with members the value does not have. -/
theorem Term.exists_ofValue (t : Term) {d : Nat} {w : Value} (h : t.value? d = some w) :
    ∃ v, t = .ofValue v := by
  cases t with
  | null => exact ⟨.null, rfl⟩
  | bool b => exact ⟨.bool b, rfl⟩
  | number n =>
    obtain ⟨n, rfl, -⟩ := Option.map_eq_some_iff.1 h
    exact ⟨.number n, rfl⟩
  | text s =>
    obtain ⟨s, rfl, -⟩ := Option.map_eq_some_iff.1 h
    exact ⟨.string s, rfl⟩
  | array items =>
    cases d with
    | zero => cases h
    | succ d =>
      obtain ⟨ws, hws, -⟩ := Option.map_eq_some_iff.1 h
      obtain ⟨list, rfl⟩ := exists_ofItems items hws
      exact ⟨.array list, rfl⟩
  | object ms =>
    cases d with
    | zero => cases h
    | succ d =>
      obtain ⟨ws, hws, -⟩ := Option.map_eq_some_iff.1 h
      obtain ⟨list, rfl⟩ := exists_ofMembers ms hws
      exact ⟨.object list, rfl⟩

theorem exists_ofItems (items : List Term) {d : Nat} {ws : List Value}
    (h : itemValues? d items = some ws) : ∃ list, items = ofItems list := by
  cases items with
  | nil => exact ⟨[], rfl⟩
  | cons t rest =>
    obtain ⟨w, hw, h⟩ := Option.bind_eq_some_iff.1 h
    obtain ⟨ws, hws, -⟩ := Option.bind_eq_some_iff.1 h
    obtain ⟨v, rfl⟩ := t.exists_ofValue hw
    obtain ⟨list, rfl⟩ := exists_ofItems rest hws
    exact ⟨v :: list, rfl⟩

theorem exists_ofMembers (ms : List (Option String × Term)) {d : Nat}
    {ws : List (String × Value)} (h : memberValues? d ms = some ws) :
    ∃ list, ms = ofMembers list := by
  cases ms with
  | nil => exact ⟨[], rfl⟩
  | cons m rest =>
    obtain ⟨k, t⟩ := m
    obtain ⟨k, rfl, h⟩ := Option.bind_eq_some_iff.1 h
    obtain ⟨w, hw, h⟩ := Option.bind_eq_some_iff.1 h
    obtain ⟨ws, hws, -⟩ := Option.bind_eq_some_iff.1 h
    obtain ⟨v, rfl⟩ := t.exists_ofValue hw
    obtain ⟨list, rfl⟩ := exists_ofMembers rest hws
    exact ⟨(k, v) :: list, rfl⟩

end

mutual

theorem tokens_ofValue (v : Value) : (Term.ofValue v).tokens = v.tokens := by
  cases v with
  | array list => rw [Term.ofValue, Term.tokens, Value.tokens, joinParts_ofItems list]
  | object list => rw [Term.ofValue, Term.tokens, Value.tokens, joinParts_ofMembers list]
  | _ => rfl

theorem joinParts_ofItems (list : List Value) :
    joinParts (itemParts (ofItems list)) = itemsTokens list := by
  match list with
  | [] => rfl
  | [v] => exact tokens_ofValue v
  | v :: w :: rest =>
    have hrest := joinParts_ofItems (w :: rest)
    rw [ofItems, itemParts] at hrest
    rw [ofItems, ofItems, itemParts, itemParts, joinParts, hrest, tokens_ofValue v, itemsTokens]

theorem joinParts_ofMembers (list : List (String × Value)) :
    joinParts (memberParts (ofMembers list)) = membersTokens list := by
  match list with
  | [] => rfl
  | [(k, v)] =>
    rw [ofMembers, ofMembers, memberParts, memberParts, joinParts, tokens_ofValue v, membersTokens]
  | (k, v) :: (k', w) :: rest =>
    have hrest := joinParts_ofMembers ((k', w) :: rest)
    rw [ofMembers, memberParts] at hrest
    rw [ofMembers, ofMembers, memberParts, memberParts, joinParts, hrest, tokens_ofValue v,
      membersTokens]
    rfl

end

/-- **Soundness of the reader**: a text that is read as a value consists of words for the tokens of
a value, the same but for the order of members and those whose keys are written again. -/
theorem words_of_ofText? {s : String} {w : Value} (h : Value.ofText? s = some w) :
    ∃ v ws, tokens? s.toList = some v.tokens ∧ List.Forall₂ Spells ws v.tokens ∧
      Spaced ws s.toList ∧ (Term.ofValue v).value? depthLimit = some w := by
  obtain ⟨t, ht, hvalue⟩ := Option.bind_eq_some_iff.1 h
  obtain ⟨toks, htoks, hterm⟩ := Option.bind_eq_some_iff.1 ht
  obtain ⟨v, rfl⟩ := t.exists_ofValue hvalue
  obtain rfl : toks = v.tokens := (tokens_of_ofTokens? hterm).trans (tokens_ofValue v)
  obtain ⟨ws, hws, hs⟩ := exists_words htoks
  exact ⟨v, ws, htoks, hws, hs, hvalue⟩

end Estate.Json
