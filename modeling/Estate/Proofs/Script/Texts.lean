import Estate.Script.Token
import Estate.Proofs.Json.Printing
import Estate.Proofs.Text.Cutting

/-!
The string literals of JSON texts, read in a script. Each piece of a literal, be it a character or
a unit written by an escape, is the same code to both readers, and both make characters of codes in
the same way.
-/

namespace Estate.Script

open Json (Piece Quotable Scan scanOn scanOn_cons)

/-- The code of a character or unit. -/
def pieceCode : Piece → Nat
  | .char c => c.toNat
  | .unit n => n

/-- A code that is no half of a pair is a character by itself. -/
lemma ofCodes?_whole {n : Nat} (h : ¬ (0xD800 ≤ n ∧ n < 0xE000)) (codes : List Nat) :
    ofCodes? (n :: codes) = (ofCodes? codes).map (Char.ofNat n :: ·) := by
  cases codes with
  | nil => simp [ofCodes?, h]
  | cons m codes =>
    have hhigh : ¬ (0xD800 ≤ n ∧ n < 0xDC00 ∧ 0xDC00 ≤ m ∧ m < 0xE000) := by omega
    rw [ofCodes?, if_neg (by simpa [and_assoc] using hhigh), if_neg (by simpa using h)]

/-- The first half of a pair needs the second one behind it, and the second one the first. -/
lemma ofCodes?_half {n : Nat} {codes : List Nat} (h : 0xD800 ≤ n ∧ n < 0xE000)
    (hnext : n < 0xDC00 → ∀ m ∈ codes.head?, ¬ (0xDC00 ≤ m ∧ m < 0xE000)) :
    ofCodes? (n :: codes) = none := by
  cases codes with
  | nil => simp [ofCodes?, h]
  | cons m codes =>
    have hpair : ¬ (0xD800 ≤ n ∧ n < 0xDC00 ∧ 0xDC00 ≤ m ∧ m < 0xE000) :=
      fun hp => hnext hp.2.1 m rfl hp.2.2
    rw [ofCodes?, if_neg (by simpa [and_assoc] using hpair), if_pos (by simpa using h)]

/-- Codes become characters as pieces do. -/
lemma ofCodes?_pieces (ps : List Piece) : ofCodes? (ps.map pieceCode) = Json.joinPieces ps := by
  fun_induction Json.joinPieces ps with
  | case1 => rfl
  | case2 c rest ih =>
    rw [List.map_cons, pieceCode, ofCodes?_whole (Text.toNat_not_surrogate c), ih, Char.ofNat_toNat]
  | case3 n rest h ih =>
    rw [Bool.or_eq_true, decide_eq_true_eq, decide_eq_true_eq] at h
    rw [List.map_cons, pieceCode, ofCodes?_whole (by omega), ih]
  | case4 n rest h hlow =>
    rw [Bool.or_eq_true, decide_eq_true_eq, decide_eq_true_eq] at h
    exact ofCodes?_half (n := n) (by omega) fun hhigh => absurd hlow (by omega)
  | case5 n h hlow m more hpair ih =>
    rw [Bool.or_eq_true, decide_eq_true_eq, decide_eq_true_eq] at h
    rw [Bool.and_eq_true, decide_eq_true_eq, decide_eq_true_eq] at hpair
    have hboth : (decide (0xD800 ≤ n) && decide (n < 0xDC00) && decide (0xDC00 ≤ m) &&
        decide (m < 0xE000)) = true := by
      simp only [Bool.and_eq_true, decide_eq_true_eq]
      omega
    rw [List.map_cons, List.map_cons, pieceCode, pieceCode, ofCodes?, if_pos hboth, ih]
  | case6 n h hlow m more hpair =>
    rw [Bool.or_eq_true, decide_eq_true_eq, decide_eq_true_eq] at h
    rw [Bool.and_eq_true, decide_eq_true_eq, decide_eq_true_eq] at hpair
    refine ofCodes?_half (n := n) (by omega) fun _ k hk => ?_
    cases hk
    exact hpair
  | case7 n rest h hlow hrest =>
    rw [Bool.or_eq_true, decide_eq_true_eq, decide_eq_true_eq] at h
    refine ofCodes?_half (n := n) (by omega) fun _ k hk => ?_
    rcases rest with _ | ⟨c | m, more⟩
    · cases hk
    · cases hk
      have hchar : ¬ (0xD800 ≤ c.toNat ∧ c.toNat < 0xE000) := Text.toNat_not_surrogate c
      rw [pieceCode]
      omega
    · exact (hrest m more rfl).elim

/-! ### Between the quotes -/

lemma textFrom_skip (quote : Char) (w rest : List Char) :
    textFrom quote w.length (w ++ rest) =
      (textFrom quote 0 rest).map fun (codes, size) => (codes, size + w.length) := by
  induction w with
  | nil => simp
  | cons c w ih =>
    rw [List.length_cons, List.cons_append, textFrom]
    dsimp only
    rw [ih]
    cases textFrom quote 0 rest with
    | none => rfl
    | some read => simp [Nat.add_assoc]

lemma textFrom_plain {c : Char} (hq : c ≠ '"') (hb : c ≠ '\\') (h : ¬ c.toNat < 32)
    (cs : List Char) : textFrom '"' 0 (c :: cs) =
      (textFrom '"' 0 cs).map fun (codes, size) => (c.toNat :: codes, size + 1) := by
  have hline : (c == '\n' || c == '\r') = false := by
    rw [Bool.or_eq_false_iff, beq_eq_false_iff_ne, beq_eq_false_iff_ne]
    constructor
    · rintro rfl
      exact h (by decide)
    · rintro rfl
      exact h (by decide)
  simp [textFrom, hq, hb, hline]

lemma textFrom_escape {w : List Char} {code : Nat}
    (h : ∀ cs, escape? (w ++ cs) = some ([code], w.length)) (cs : List Char) :
    textFrom '"' 0 ('\\' :: (w ++ cs)) =
      (textFrom '"' 0 cs).map fun (codes, size) => (code :: codes, size + (w.length + 1)) := by
  simp [textFrom, h, textFrom_skip]
  cases textFrom '"' 0 cs with
  | none => rfl
  | some read => rfl

lemma escape?_simple {e c : Char} (h : Json.simpleEscape? e = some c) (cs : List Char) :
    escape? ([e] ++ cs) = some ([c.toNat], 1) := by
  unfold Json.simpleEscape? at h
  split at h <;> cases h <;> rfl

lemma escape?_unit {a b c d : Char} (h : ∀ e ∈ [a, b, c, d], (Text.hexDigit? e).isSome)
    (cs : List Char) :
    escape? (['u', a, b, c, d] ++ cs) = some ([Text.ofHex [a, b, c, d]], 5) := by
  have hbrace : a ≠ '\x7b' := by
    rintro rfl
    exact absurd (h '\x7b' (by simp)) (by decide)
  have hall : [a, b, c, d].all (fun e => (Text.hexDigit? e).isSome) = true :=
    List.all_eq_true.2 h
  have hunicode : unicodeEscape? (a :: b :: c :: d :: cs) = some (Text.ofHex [a, b, c, d], 4) := by
    unfold unicodeEscape?
    split
    · next heq => exact absurd (List.cons.inj heq).1 hbrace
    · simp only [List.take_succ_cons, List.take_zero, List.length_cons, List.length_nil, hall]
      rfl
  have hescape : escape? ('u' :: a :: b :: c :: d :: cs) =
      (unicodeEscape? (a :: b :: c :: d :: cs)).map fun e => ([e.1], e.2 + 1) := rfl
  rw [List.cons_append, List.cons_append, List.cons_append, List.cons_append, List.cons_append,
    List.nil_append, hescape, hunicode]
  rfl

lemma quotable_behind {c : Char} {cs : List Char} (hc : (Text.hexDigit? c).isSome)
    (h : Quotable (c :: cs)) : Quotable cs := by
  cases h with
  | plain _ _ h => exact h
  | escaped _ _ => exact absurd hc (by decide)

/-- Behind a backslash and the letter u, a digit has to follow. -/
lemma hex_of_scan {cs : List Char} {acc : List Json.Token} {read : List Piece}
    {digits : List Char} {s : Scan}
    (h : scanOn ⟨acc, .unicode read digits⟩ (cs ++ ['"']) = some s) :
    ∃ c rest, cs = c :: rest ∧ (Text.hexDigit? c).isSome ∧
      scanOn (if digits.length < 3 then ⟨acc, .unicode read (c :: digits)⟩
        else ⟨acc, .text (.unit (Text.ofHex (c :: digits).reverse) :: read)⟩) (rest ++ ['"']) =
        some s := by
  cases cs with
  | nil =>
    have hquote : Text.hexDigit? '"' = none := by decide
    simp [scanOn_cons, Scan.step, hquote] at h
  | cons c rest =>
    refine ⟨c, rest, rfl, ?_⟩
    rw [List.cons_append, scanOn_cons] at h
    cases hc : Text.hexDigit? c with
    | none => simp [Scan.step, hc] at h
    | some n =>
      refine ⟨rfl, ?_⟩
      split
      · next hlen => rwa [Scan.step_unicode (by simp [hc]) hlen, Option.bind_some] at h
      · next hlen => rwa [Scan.step_unicode_last (by simp [hc]) hlen, Option.bind_some] at h

/-- What JSON reads between the quotes is what a script reads there. -/
lemma textFrom_of_scan {body : List Char} (hbody : Quotable body) {acc : List Json.Token}
    {read : List Piece} {x : Option String}
    (h : scanOn ⟨acc, .text read⟩ (body ++ ['"']) = some ⟨.text x :: acc, .gap⟩) :
    ∃ ps, x = (Json.joinPieces (read.reverse ++ ps)).map String.ofList ∧
      ∀ rest, textFrom '"' 0 (body ++ '"' :: rest) = some (ps.map pieceCode, body.length + 1) := by
  induction hn : body.length using Nat.strongRecOn generalizing body read with
  | ind n ih =>
    have hmore {p : Piece} {w more : List Char} (heq : body = w ++ more) (hw : w ≠ [])
        (hquotable : Quotable more)
        (hscan : scanOn ⟨acc, .text (p :: read)⟩ (more ++ ['"']) = some ⟨.text x :: acc, .gap⟩)
        (hread : ∀ cs, textFrom '"' 0 (w ++ cs) =
          (textFrom '"' 0 cs).map fun (codes, size) => (pieceCode p :: codes, size + w.length)) :
        ∃ ps, x = (Json.joinPieces (read.reverse ++ ps)).map String.ofList ∧
          ∀ rest, textFrom '"' 0 (body ++ '"' :: rest) = some (ps.map pieceCode, n + 1) := by
      have hpos := List.length_pos_iff.2 hw
      have hlength := congrArg List.length heq
      rw [List.length_append] at hlength
      obtain ⟨ps, hx, htext⟩ := ih more.length (by omega) hquotable hscan rfl
      refine ⟨p :: ps, by simpa using hx, fun rest => ?_⟩
      rw [heq, List.append_assoc, hread, htext]
      simp only [Option.map_some, List.map_cons, Option.some.injEq, Prod.mk.injEq, true_and]
      omega
    cases hbody with
    | nil =>
      cases h
      exact ⟨[], by simp, fun rest => by simp [textFrom, ← hn]⟩
    | @plain c cs hq hb hcs =>
      rw [List.cons_append, scanOn_cons] at h
      have hprint : ¬ c.toNat < 32 := by
        intro hlow
        simp [Scan.step, hq, hb, hlow] at h
      rw [Scan.step_text_plain hq hb hprint, Option.bind_some] at h
      exact hmore (w := [c]) rfl (by simp) hcs h (textFrom_plain hq hb hprint)
    | @escaped e cs hcs =>
      have hback : Scan.step ⟨acc, .text read⟩ '\\' = some ⟨acc, .escape read⟩ := rfl
      rw [List.cons_append, List.cons_append, scanOn_cons, hback, Option.bind_some,
        scanOn_cons] at h
      by_cases hu : e = 'u'
      · subst hu
        have hunicode : Scan.step ⟨acc, .escape read⟩ 'u' = some ⟨acc, .unicode read []⟩ := rfl
        rw [hunicode, Option.bind_some] at h
        obtain ⟨a, cs, rfl, ha, h⟩ := hex_of_scan h
        obtain ⟨b, cs, rfl, hb, h⟩ := hex_of_scan h
        obtain ⟨c, cs, rfl, hc, h⟩ := hex_of_scan h
        obtain ⟨d, cs, rfl, hd, h⟩ := hex_of_scan h
        have hhex : ∀ e ∈ [a, b, c, d], (Text.hexDigit? e).isSome := by
          simp [ha, hb, hc, hd]
        have hcs : Quotable cs :=
          quotable_behind hd (quotable_behind hc (quotable_behind hb (quotable_behind ha hcs)))
        exact hmore (w := ['\\', 'u', a, b, c, d]) rfl (by simp) hcs h
          (textFrom_escape (escape?_unit hhex))
      · cases hsimple : Json.simpleEscape? e with
        | none => simp [Scan.step, hu, hsimple] at h
        | some c =>
          have hescape : Scan.step ⟨acc, .escape read⟩ e =
              some ⟨acc, .text (.char c :: read)⟩ := by simp [Scan.step, hu, hsimple]
          rw [hescape, Option.bind_some] at h
          exact hmore (w := ['\\', e]) rfl (by simp) hcs h
            (textFrom_escape (escape?_simple hsimple))

/-- A string literal of JSON stands for the same text in a script. -/
theorem tokenAt_literal {body : List Char} (hbody : Quotable body) {s : String}
    (h : Json.Spells ('"' :: (body ++ ['"'])) (.text (some s))) (rest : List Char) :
    tokenAt ('"' :: (body ++ '"' :: rest)) = (.text (some s), body.length + 2) := by
  have hscan : scanOn ⟨[], .text []⟩ (body ++ ['"']) = some ⟨[.text (some s)], .gap⟩ :=
    h.scanOn_eq []
  obtain ⟨ps, hps, htext⟩ := textFrom_of_scan hbody hscan
  rw [List.reverse_nil, List.nil_append] at hps
  simp [tokenAt, htext, ofCodes?_pieces, ← hps]

end Estate.Script
