import Mathlib.Tactic.Lemma
import Estate.Modifier
import Estate.Proofs.Text.Cutting

/-!
Decoding of character references undoes escaping.

In an escaped text every ampersand starts a reference, and the body of a reference has no
semicolon but the one behind it. So the references are read one after the other as they were put
there, and what they decode to, be it an ampersand, is not read again.
-/

namespace Estate.Text

/-- What stands between ampersand and semicolon in a reference to a character: one of its names, or
its code in one to seven decimal or one to six hexadecimal digits, leading zeros included. -/
inductive RefersTo (c : Char) : List Char → Prop where
  | name {cs : List Char} (h : (cs, c) ∈ namedReferences) : RefersTo c cs
  | decimal {ds : List Char} (hdigits : ∀ d ∈ ds, isAsciiDigit d)
    (hlength : 1 ≤ ds.length ∧ ds.length ≤ 7) (hcode : digitsValue ds = c.toNat) :
    RefersTo c ('#' :: ds)
  | hex {x : Char} {ds : List Char} (hx : x = 'x' ∨ x = 'X')
    (hdigits : ∀ d ∈ ds, (hexDigit? d).isSome) (hlength : 1 ≤ ds.length ∧ ds.length ≤ 6)
    (hcode : ofHex ds = c.toNat) : RefersTo c ('#' :: x :: ds)

/-- The second text is the first with references for characters of it, and for every ampersand. -/
inductive Escapes : List Char → List Char → Prop where
  | nil : Escapes [] []
  | kept {c : Char} {t u : List Char} (hc : c ≠ '&') (h : Escapes t u) : Escapes (c :: t) (c :: u)
  | reference {c : Char} {body t u : List Char} (hbody : RefersTo c body) (h : Escapes t u) :
    Escapes (c :: t) ('&' :: (body ++ ';' :: u))

lemma Escapes.kept_all {w t u : List Char} (hw : '&' ∉ w) (h : Escapes t u) :
    Escapes (w ++ t) (w ++ u) := by
  induction w with
  | nil => exact h
  | cons c w ih =>
    rw [List.mem_cons, not_or] at hw
    exact .kept (Ne.symm hw.1) (ih hw.2)

lemma charOfCode?_toNat (c : Char) : charOfCode? c.toNat = some c := by
  have hvalid : c.toNat.isValidChar := c.valid
  have hcode : (decide (c.toNat < 0xD800) ||
      (decide (0xE000 ≤ c.toNat) && decide (c.toNat < 0x110000))) = true := by
    simp only [Bool.or_eq_true, Bool.and_eq_true, decide_eq_true_eq]
    unfold Nat.isValidChar at hvalid
    omega
  rw [charOfCode?, if_pos hcode, Char.ofNat_toNat]

lemma reference?_name {cs : List Char} {c : Char} (h : (cs, c) ∈ namedReferences) :
    reference? cs = some (.name cs) ∧ namedReferences.lookup cs = some c ∧ ';' ∉ cs := by
  simp only [namedReferences, List.map_cons, List.map_nil, List.mem_cons, List.not_mem_nil,
    or_false, Prod.mk.injEq] at h
  rcases h with ⟨rfl, rfl⟩ | ⟨rfl, rfl⟩ | ⟨rfl, rfl⟩ | ⟨rfl, rfl⟩ | ⟨rfl, rfl⟩ | ⟨rfl, rfl⟩ |
    ⟨rfl, rfl⟩ | ⟨rfl, rfl⟩ <;> exact ⟨rfl, by decide, by decide⟩

lemma reference?_decimal {ds : List Char} (hdigits : ∀ d ∈ ds, isAsciiDigit d)
    (hlength : 1 ≤ ds.length ∧ ds.length ≤ 7) :
    reference? ('#' :: ds) = some (.code (digitsValue ds)) := by
  cases ds with
  | nil => simp at hlength
  | cons d ds =>
    have hd : (d == 'x' || d == 'X') = false := by
      rw [Bool.or_eq_false_iff, beq_eq_false_iff_ne, beq_eq_false_iff_ne]
      have hdigit := hdigits d List.mem_cons_self
      constructor <;> rintro rfl <;> exact absurd hdigit (by decide)
    have hall : (decide (ds.length ≤ 6) && (d :: ds).all isAsciiDigit) = true := by
      rw [Bool.and_eq_true, decide_eq_true_eq]
      exact ⟨Nat.le_of_succ_le_succ hlength.2, List.all_eq_true.2 hdigits⟩
    simp only [reference?, hd, Bool.false_eq_true, if_false, hall, if_true]

lemma reference?_hex {x : Char} {ds : List Char} (hx : x = 'x' ∨ x = 'X')
    (hdigits : ∀ d ∈ ds, (hexDigit? d).isSome) (hlength : 1 ≤ ds.length ∧ ds.length ≤ 6) :
    reference? ('#' :: x :: ds) = some (.code (ofHex ds)) := by
  have hmark : (x == 'x' || x == 'X') = true := by simpa using hx
  have hall : (decide (1 ≤ ds.length) && decide (ds.length ≤ 6) &&
      ds.all fun d => (hexDigit? d).isSome) = true := by
    simpa [and_assoc] using ⟨hlength.1, hlength.2, hdigits⟩
  simp only [reference?, hmark, if_true, hall]

/-- What refers to a character is read as a reference that decodes to it. -/
lemma RefersTo.reference? {c : Char} {body : List Char} (h : RefersTo c body) :
    ∃ r, Text.reference? body = some r ∧ r.decode = [c] := by
  cases h with
  | name h =>
    obtain ⟨hread, hlookup, -⟩ := reference?_name h
    exact ⟨_, hread, by rw [Reference.decode, hlookup, Option.toList_some]⟩
  | decimal hdigits hlength hcode =>
    refine ⟨_, reference?_decimal hdigits hlength, ?_⟩
    rw [Reference.decode, hcode, charOfCode?_toNat, Option.toList_some]
  | hex hx hdigits hlength hcode =>
    refine ⟨_, reference?_hex hx hdigits hlength, ?_⟩
    rw [Reference.decode, hcode, charOfCode?_toNat, Option.toList_some]

lemma RefersTo.no_semicolon {c : Char} {body : List Char} (h : RefersTo c body) : ';' ∉ body := by
  cases h with
  | name h => exact (reference?_name h).2.2
  | decimal hdigits _ _ =>
    have hds : ';' ∉ _ := fun hmem => absurd (hdigits _ hmem) (by decide)
    simpa using hds
  | hex hx hdigits _ _ =>
    have hds : ';' ∉ _ := fun hmem => absurd (hdigits _ hmem) (by decide)
    rcases hx with rfl | rfl <;> simpa using hds

/-- A body ends at the first semicolon. -/
lemma referenceAt?_body {body : List Char} (h : ';' ∉ body) (rest : List Char) :
    referenceAt? (body ++ ';' :: rest) = (reference? body).map fun r => (r, body.length) := by
  have hbody : (body ++ ';' :: rest).takeWhile (· != ';') = body :=
    takeWhile_append_of_all (fun c hc => bne_iff_ne.2 fun heq => h (heq ▸ hc)) (by simp)
  have hlength : body.length < (body ++ ';' :: rest).length := by simp
  rw [referenceAt?, hbody, if_pos hlength]

lemma decodeFrom_skip (w rest : List Char) :
    decodeFrom w.length (w ++ rest) = decodeFrom 0 rest := by
  induction w with
  | nil => rfl
  | cons c w ih => rw [List.length_cons, List.cons_append, decodeFrom, ih]

lemma decodeFrom_kept {c : Char} (h : c ≠ '&') (cs : List Char) :
    decodeFrom 0 (c :: cs) = c :: decodeFrom 0 cs := by
  rw [decodeFrom, if_neg (by simpa using h)]

/-- Behind a reference decoding goes on behind its semicolon. -/
lemma decodeFrom_reference {c : Char} {body : List Char} (h : RefersTo c body) (cs : List Char) :
    decodeFrom 0 ('&' :: (body ++ ';' :: cs)) = c :: decodeFrom 0 cs := by
  obtain ⟨r, hread, hdecode⟩ := h.reference?
  have hat : referenceAt? (body ++ ';' :: cs) = some (r, body.length) := by
    rw [referenceAt?_body h.no_semicolon, hread, Option.map_some]
  have hskip : decodeFrom (body.length + 1) (body ++ ';' :: cs) = decodeFrom 0 cs := by
    have happend : body ++ ';' :: cs = (body ++ [';']) ++ cs := List.append_cons body ';' cs
    have hlength : body.length + 1 = (body ++ [';']).length := by simp
    rw [happend, hlength, decodeFrom_skip]
  rw [decodeFrom, if_pos (by decide), hat]
  simp only [hdecode, hskip, List.singleton_append]

lemma Escapes.decodeReferences {t u : List Char} (h : Escapes t u) :
    Text.decodeReferences u = t := by
  unfold Text.decodeReferences
  induction h with
  | nil => rfl
  | kept hc _ ih => rw [decodeFrom_kept hc, ih]
  | reference hbody _ ih => rw [decodeFrom_reference hbody, ih]

/-- **Decoding undoes escaping**: a text in which references stand for all ampersands, and for any
other characters, is decoded to the text that was escaped. -/
theorem decode_of_escapes {t u : String} (h : Escapes t.toList u.toList) :
    Modifier.applyNamed? "stripHtmlEntities" u = some t := by
  have hname : Modifier.ofName? "stripHtmlEntities" = some .stripHtmlEntities := by decide
  rw [Modifier.applyNamed?, hname, Option.map_some, Modifier.apply, Modifier.applyChars,
    h.decodeReferences, String.ofList_toList]

/-- References that were escaped themselves, by names and by codes, are decoded once. -/
theorem decode_of_escapes_nested :
    Escapes "&lt;&#38;<é".toList "&amp;lt;&#0000038;#38;&#X3c;&#xE9;".toList ∧
      Modifier.applyNamed? "stripHtmlEntities" "&amp;lt;&#0000038;#38;&#X3c;&#xE9;" =
        some "&lt;&#38;<é" := by
  have hescapes : Escapes "&lt;&#38;<é".toList "&amp;lt;&#0000038;#38;&#X3c;&#xE9;".toList := by
    refine @Escapes.reference '&' "amp".toList _ _ (.name (by decide)) ?_
    refine @Escapes.kept_all "lt;".toList _ _ (by decide) ?_
    refine @Escapes.reference '&' "#0000038".toList _ _
      (.decimal (List.all_eq_true.1 rfl) (by decide) (by decide)) ?_
    refine @Escapes.kept_all "#38;".toList _ _ (by decide) ?_
    refine @Escapes.reference '<' "#X3c".toList _ _
      (.hex (.inr rfl) (List.all_eq_true.1 rfl) (by decide) (by decide)) ?_
    exact @Escapes.reference 'é' "#xE9".toList _ _
      (.hex (.inl rfl) (List.all_eq_true.1 rfl) (by decide) (by decide)) .nil
  exact ⟨hescapes, decode_of_escapes hescapes⟩

end Estate.Text
