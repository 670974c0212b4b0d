import Estate.Proofs.Json.PrintedNumber
import Estate.Proofs.Text.Cutting

/-!
What a bare word that is one token looks like: a keyword, or the text of a number, which for an
integer is digits with a minus sign if it is negative.
-/

namespace Estate.Json

section

variable {kind : Char → Bool} {mode : List Char → Mode}

/-- A run of characters of a kind is read as one token, and the rest behind it. -/
lemma Run.read (hr : Run kind mode) {c : Char} {acc : List Token} {s : Scan}
    (hstart : Scan.step ⟨acc, .gap⟩ c = some ⟨acc, mode [c]⟩) {t : List Char}
    (h : scanOn ⟨acc, .gap⟩ (c :: t) = some s) :
    ∃ tok, Scan.settle ⟨acc, mode ((c :: t.takeWhile kind).reverse)⟩ = some ⟨tok :: acc, .gap⟩ ∧
      scanOn ⟨tok :: acc, .gap⟩ (t.dropWhile kind) = some s := by
  have hrun : scanOn ⟨acc, .gap⟩ (c :: (t.takeWhile kind ++ t.dropWhile kind)) =
      scanOn ⟨acc, mode ((c :: t.takeWhile kind).reverse)⟩ (t.dropWhile kind) := by
    rw [scanOn_cons, hstart, Option.bind_some, scanOn, List.foldlM_append,
      hr.foldlM fun d hd => List.mem_takeWhile_imp hd, List.reverse_cons]
    rfl
  rw [List.takeWhile_append_dropWhile] at hrun
  rw [hrun, scanOn_settle fun d hd => hr.stop _ _ d (Text.head?_dropWhile kind t d hd)] at h
  obtain ⟨s', hs', h⟩ := Option.bind_eq_some_iff.1 h
  obtain ⟨tok, -, rfl⟩ := hr.settle _ _ _ hs'
  exact ⟨tok, hs', h⟩

end

/-- A bare word starts as a number or as a keyword. -/
lemma step_bare {c : Char} (hc : isBare c) {acc : List Token} {s : Scan}
    (h : Scan.step ⟨acc, .gap⟩ c = some s) : s = ⟨acc, .number [c]⟩ ∨ s = ⟨acc, .word [c]⟩ := by
  have hquote : c ≠ '"' := by
    rintro rfl
    exact absurd hc (by decide)
  have hstep : Scan.step ⟨acc, .gap⟩ c = Scan.start ⟨acc, .gap⟩ c := rfl
  rw [hstep, Scan.start_other (isGap_of_isBare hc) (isMark_of_isBare hc) hquote] at h
  split at h
  · cases h
    exact .inl rfl
  · split at h
    · cases h
      exact .inr rfl
    · cases h

/-- A bare word is one token at least. -/
lemma tokens_of_bare {c : Char} (hc : isBare c) {acc : List Token} {t : List Char} {s : Scan}
    (h : scanOn ⟨acc, .gap⟩ (c :: t) = some s) : ∃ more tok, s.tokens = more ++ tok :: acc := by
  have hover {tok : Token} {rest : List Char} (h : scanOn ⟨tok :: acc, .gap⟩ rest = some s) :
      ∃ more tok, s.tokens = more ++ tok :: acc := by
    have hmap : scanOn ⟨tok :: acc, .gap⟩ rest =
        (scanOn ⟨[], .gap⟩ rest).map fun s => s.over (tok :: acc) := scanOn_over ⟨[], .gap⟩ _ rest
    rw [hmap] at h
    obtain ⟨s', -, rfl⟩ := Option.map_eq_some_iff.1 h
    exact ⟨s'.tokens, tok, rfl⟩
  obtain ⟨s', hstep, -⟩ := Option.bind_eq_some_iff.1 ((scanOn_cons _ c t).symm.trans h)
  rcases step_bare hc hstep with rfl | rfl
  · obtain ⟨tok, -, h⟩ := run_number.read hstep h
    exact hover h
  · obtain ⟨tok, -, h⟩ := run_keyword.read hstep h
    exact hover h

/-- A bare word that is one token is all of one kind. -/
lemma Run.read_all {kind : Char → Bool} {mode : List Char → Mode} (hr : Run kind mode) {c : Char}
    (hstart : Scan.step ⟨[], .gap⟩ c = some ⟨[], mode [c]⟩) {t : List Char}
    (ht : ∀ d ∈ t, isBare d) {tok : Token} {m : Mode}
    (h : scanOn ⟨[], .gap⟩ (c :: t) = some ⟨[tok], m⟩) :
    Scan.settle ⟨[], mode (c :: t).reverse⟩ = some ⟨[tok], .gap⟩ := by
  obtain ⟨first, hsettle, hrest⟩ := hr.read hstart h
  have hsplit := (List.takeWhile_append_dropWhile (p := kind) (l := t)).symm
  cases hdrop : t.dropWhile kind with
  | nil =>
    rw [hdrop] at hsplit hrest
    rw [List.append_nil] at hsplit
    rw [← hsplit] at hsettle
    cases hrest
    exact hsettle
  | cons d rest =>
    have hd : isBare d := ht d (by rw [hsplit, hdrop]; simp)
    rw [hdrop] at hrest
    obtain ⟨more, last, htokens⟩ := tokens_of_bare hd hrest
    have hlength := congrArg List.length htokens
    simp at hlength

/-- A bare word that is one token is the text of a number, or a keyword. -/
lemma bare_cases {w : List Char} (hw : Bare w) {tok : Token} (h : tokens? w = some [tok]) :
    (∃ l, Lexeme.ofChars? w = some l ∧ tok = .number l.number?) ∨ wordToken? w = some tok := by
  obtain ⟨c, t, rfl⟩ := List.exists_cons_of_ne_nil hw.1
  have ht : ∀ d ∈ t, isBare d := fun d hd => hw.2 d (by simp [hd])
  obtain ⟨⟨ts, m⟩, hscan, hts⟩ := Option.map_eq_some_iff.1 h
  obtain rfl : ts = [tok] := by simpa using hts
  have hscan : scanOn ⟨[], .gap⟩ (c :: t) = some ⟨[tok], m⟩ := hscan
  obtain ⟨s', hstep, -⟩ := Option.bind_eq_some_iff.1 ((scanOn_cons _ c t).symm.trans hscan)
  rcases step_bare (hw.2 c (by simp)) hstep with rfl | rfl
  · have hsettle := run_number.read_all hstep ht hscan
    obtain ⟨l, hl, heq⟩ := Option.map_eq_some_iff.1 hsettle
    rw [List.reverse_reverse] at hl
    cases heq
    exact .inl ⟨l, hl, rfl⟩
  · have hsettle := run_keyword.read_all hstep ht hscan
    obtain ⟨t', ht', heq⟩ := Option.map_eq_some_iff.1 hsettle
    rw [List.reverse_reverse] at ht'
    cases heq
    exact .inr ht'

lemma wordToken?_cases {w : List Char} {tok : Token} (h : wordToken? w = some tok) :
    (w = "null".toList ∧ tok = .null) ∨ (w = "true".toList ∧ tok = .bool true) ∨
      (w = "false".toList ∧ tok = .bool false) := by
  unfold wordToken? at h
  split at h
  · next hw =>
    cases h
    exact .inl ⟨beq_iff_eq.1 hw, rfl⟩
  · split at h
    · next hw =>
      cases h
      exact .inr (.inl ⟨beq_iff_eq.1 hw, rfl⟩)
    · split at h
      · next hw =>
        cases h
        exact .inr (.inr ⟨beq_iff_eq.1 hw, rfl⟩)
      · cases h

section

variable {w : List Char}

/-- A bracket, colon or comma is written in one way. -/
lemma Shaped.eq_mark {t : Token} {c : Char} (h : Shaped w t) (ht : t.mark? = some c) : w = [c] := by
  cases h with
  | mark hmark =>
    rw [ht] at hmark
    cases hmark
    rfl
  | bare _ hatomic => cases t <;> cases hatomic <;> cases ht
  | literal _ => cases ht

lemma Spells.bare {t : Token} (h : Spells w t) (ht : t.Atomic) : Bare w := by
  obtain ⟨hshape, -⟩ := h
  cases hshape with
  | mark hmark => cases t <;> cases ht <;> cases hmark
  | bare hw _ => exact hw
  | literal _ => cases ht

lemma Spells.eq_null (h : Spells w .null) : w = "null".toList := by
  rcases bare_cases (h.bare trivial) h.read with ⟨l, -, heq⟩ | hword
  · cases heq
  · rcases wordToken?_cases hword with ⟨hw, -⟩ | ⟨-, heq⟩ | ⟨-, heq⟩
    · exact hw
    · cases heq
    · cases heq

lemma Spells.eq_bool {b : Bool} (h : Spells w (.bool b)) : w = (toString b).toList := by
  rcases bare_cases (h.bare trivial) h.read with ⟨l, -, heq⟩ | hword
  · cases heq
  · rcases wordToken?_cases hword with ⟨-, heq⟩ | ⟨hw, heq⟩ | ⟨hw, heq⟩
    · cases heq
    · cases heq
      exact hw
    · cases heq
      exact hw

end

/-- A number without a fraction and an exponent is digits, with a minus sign if it is negative. -/
lemma Lexeme.of_ofChars? {cs : List Char} {l : Lexeme} (h : ofChars? cs = some l)
    (hfraction : l.fractional = none) (hexponent : l.exponent = none) :
    Numeral l.whole ∧ cs = if l.negative then '-' :: l.whole else l.whole := by
  unfold ofChars? at h
  split at h
  next negative body hbody =>
  have hcs : cs = if negative then '-' :: body else body := by
    split at hbody <;> cases hbody <;> rfl
  split at h
  next whole behind hwhole =>
  obtain ⟨rfl, rfl⟩ := Prod.mk.inj ((List.span_eq_takeWhile_dropWhile _ _).symm.trans hwhole)
  split at h
  next fractional after hafter =>
  dsimp only at h
  split at h
  · cases h
  · next hok =>
    split at h
    · cases h
      have hnone : fractional = none := hfraction
      have hempty : body.dropWhile Text.isAsciiDigit = [] := by
        split at hafter
        · have hsome := (Prod.mk.inj hafter).1
          rw [hnone] at hsome
          cases hsome
        · exact (Prod.mk.inj hafter).2
      have hall : body.takeWhile Text.isAsciiDigit = body := by
        have hsplit := List.takeWhile_append_dropWhile (p := Text.isAsciiDigit) (l := body)
        rwa [hempty, List.append_nil] at hsplit
      rw [hall] at hok ⊢
      have hlean : body ≠ [] ∧ (body.length = 1 ∨ body.head? ≠ some '0') := by
        simpa [hnone, or_iff_not_imp_left] using hok
      exact ⟨⟨hlean.1, List.takeWhile_eq_self_iff.1 hall, hlean.2⟩, hcs⟩
    · split at h
      · obtain ⟨-, hl⟩ := Option.ite_none_right_eq_some.1 h
        rw [← Option.some.inj hl] at hexponent
        cases hexponent
      · cases h

/-- A number that is an integer has neither fraction nor exponent. -/
lemma Lexeme.of_number? {l : Lexeme} {n : Int} (h : l.number? = some (.int n)) :
    l.fractional = none ∧ l.exponent = none ∧ Text.digitsValue l.whole = n.natAbs ∧
      (l.negative = true ↔ n < 0) := by
  have hfloat : l.float?.map Number.float ≠ some (.int n) := by
    intro hfloat
    obtain ⟨x, -, heq⟩ := Option.map_eq_some_iff.1 hfloat
    cases heq
  unfold number? at h
  dsimp only at h
  split at h
  · exact absurd h hfloat
  · next hplain =>
    obtain ⟨hfraction, hexponent⟩ : l.fractional = none ∧ l.exponent = none := by
      simpa using hplain
    refine ⟨hfraction, hexponent, ?_⟩
    split at h
    · next hneg =>
      split at h
      · next hrange =>
        obtain ⟨hpos, -⟩ : 0 < Text.digitsValue l.whole ∧ _ := by simpa using hrange
        cases h
        exact ⟨by omega, by simp [hneg]; omega⟩
      · exact absurd h hfloat
    · next hneg =>
      split at h
      · cases h
        exact ⟨by omega, by simp [hneg]⟩
      · exact absurd h hfloat

/-- An integer is written as its digits, with a minus sign if it is negative. -/
lemma Spells.eq_int {w : List Char} {n : Int} (h : Spells w (.number (some (.int n)))) :
    ∃ ds, Numeral ds ∧ Text.digitsValue ds = n.natAbs ∧ w = if n < 0 then '-' :: ds else ds := by
  rcases bare_cases (h.bare trivial) h.read with ⟨l, hl, heq⟩ | hword
  · injection heq with heq
    obtain ⟨hfraction, hexponent, hvalue, hneg⟩ := Lexeme.of_number? heq.symm
    obtain ⟨hnumeral, hw⟩ := Lexeme.of_ofChars? hl hfraction hexponent
    refine ⟨l.whole, hnumeral, hvalue, ?_⟩
    simpa only [hneg] using hw
  · rcases wordToken?_cases hword with ⟨-, heq⟩ | ⟨-, heq⟩ | ⟨-, heq⟩ <;> cases heq

end Estate.Json
