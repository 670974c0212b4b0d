import Mathlib.Data.List.Forall2
import Estate.Json.Printer
import Estate.Proofs.Json.Words

/-!
The words that write a token, and which tokens may follow each other. What a text of such words is
read as does not depend on how they are spelled.
-/

namespace Estate.Json

/-- Brackets, colon and comma as tokens. -/
def Token.mark? : Token → Option Char
  | .openBrace => some '{'
  | .closeBrace => some '}'
  | .openBracket => some '['
  | .closeBracket => some ']'
  | .colon => some ':'
  | .comma => some ','
  | _ => none

/-- Numbers and keywords. -/
def Token.Atomic : Token → Prop
  | .null => True
  | .bool _ => True
  | .number _ => True
  | _ => False

def Token.Closing (t : Token) : Prop := t = .closeBracket ∨ t = .closeBrace

/-- Of two tokens in a row one is no number or keyword, and no bracket closes behind a comma. -/
structure Token.Follows (a b : Token) : Prop where
  apart : ¬ (a.Atomic ∧ b.Atomic)
  full : a = .comma → ¬ b.Closing

/-- A word of the kind that writes a token: its mark, a bare word, or a string literal. -/
inductive Shaped : List Char → Token → Prop where
  | mark {c : Char} {t : Token} (h : t.mark? = some c) : Shaped [c] t
  | bare {w : List Char} {t : Token} (hw : Bare w) (ht : t.Atomic) : Shaped w t
  | literal {body : List Char} {s : Option String} (h : Quotable body) :
    Shaped ('"' :: (body ++ ['"'])) (.text s)

/-- A word that is read as the token. -/
structure Spells (w : List Char) (t : Token) : Prop where
  shape : Shaped w t
  read : tokens? w = some [t]

/-- The words that close an array or object. -/
def IsCloser (w : List Char) : Prop := w = [']'] ∨ w = ['}']

/-- Two words in a row that do not run together and of which the second does not close behind a
comma. -/
structure Behind (v w : List Char) : Prop where
  apart : Apart v w
  full : v = [','] → ¬ IsCloser w

lemma isMark_of_mark? {t : Token} {c : Char} (h : t.mark? = some c) : isMark c := by
  cases t <;> cases h <;> decide

lemma not_bare_mark {c : Char} (h : isMark c) : ¬ Bare [c] := by
  intro hb
  have hc : isBare c = true := hb.2 c (by simp)
  rw [isBare_of_isMark h] at hc
  cases hc

section

variable {w : List Char} {t : Token}

lemma Shaped.word (h : Shaped w t) : Word w := by
  cases h with
  | mark h => exact .mark (isMark_of_mark? h)
  | bare hw => exact .bare hw
  | literal h => exact .literal h

lemma Shaped.atomic (h : Shaped w t) (hw : Bare w) : t.Atomic := by
  cases h with
  | mark h => exact absurd hw (not_bare_mark (isMark_of_mark? h))
  | bare _ ht => exact ht
  | literal _ => exact absurd (hw.2 '"' (by simp)) (by decide)

lemma Shaped.mark?_eq {c : Char} (h : Shaped [c] t) (hc : isMark c) : t.mark? = some c := by
  generalize hw : [c] = w at h
  cases h with
  | mark h =>
    cases hw
    exact h
  | bare hb _ => exact absurd (hw ▸ hb) (not_bare_mark hc)
  | literal _ => simp at hw

lemma Shaped.closing (h : Shaped w t) (hw : IsCloser w) : t.Closing := by
  rcases hw with rfl | rfl
  · have ht := h.mark?_eq (by decide)
    cases t <;> simp_all [Token.mark?, Token.Closing]
  · have ht := h.mark?_eq (by decide)
    cases t <;> simp_all [Token.mark?, Token.Closing]

lemma Shaped.comma (h : Shaped [','] t) : t = .comma := by
  have ht := h.mark?_eq (by decide)
  cases t <;> simp_all [Token.mark?]

lemma Shaped.behind {v : List Char} {s : Token} (hv : Shaped v s) (hw : Shaped w t)
    (h : s.Follows t) : Behind v w where
  apart hb := h.apart ⟨hv.atomic hb.1, hw.atomic hb.2⟩
  full := by
    rintro rfl hc
    exact h.full hv.comma (hw.closing hc)

end

section

variable {ws : List (List Char)} {ts : List Token}

lemma word_of_shaped (h : List.Forall₂ Shaped ws ts) : ∀ w ∈ ws, Word w := by
  induction h with
  | nil => simp
  | cons hw _ ih =>
    intro v hv
    rcases List.mem_cons.1 hv with rfl | hv
    · exact hw.word
    · exact ih v hv

lemma chain_of_shaped (h : List.Forall₂ Shaped ws ts) (hts : ts.IsChain Token.Follows) :
    ws.IsChain Behind := by
  induction h with
  | nil => exact .nil
  | @cons w t ws ts hw hws ih =>
    obtain ⟨hhead, htail⟩ := List.isChain_cons.1 hts
    refine List.isChain_cons.2 ⟨fun v hv => ?_, ih htail⟩
    cases hws with
    | nil => cases hv
    | cons hv' _ =>
      cases hv
      exact hw.behind hv' (hhead _ rfl)

end

/-- The scan is in a mode for as long as the characters are of one kind. -/
structure Run (kind : Char → Bool) (mode : List Char → Mode) : Prop where
  bare : ∀ c, kind c → isBare c
  more : ∀ acc read c, kind c → Scan.step ⟨acc, mode read⟩ c = some ⟨acc, mode (c :: read)⟩
  stop : ∀ acc read c, kind c = false → Scan.step ⟨acc, mode read⟩ c =
    (Scan.settle ⟨acc, mode read⟩).bind fun s => s.step c
  settle : ∀ acc read s, Scan.settle ⟨acc, mode read⟩ = some s →
    ∃ t : Token, t.Atomic ∧ s = ⟨t :: acc, .gap⟩

lemma run_number : Run isNumberChar .number where
  bare c hc := by simp [isBare, hc]
  more acc read c hc := by simp [Scan.step, hc]
  stop acc read c hc := by
    rw [Scan.settle_bind_step]
    simp [Scan.step, hc]
  settle acc read s hs := by
    obtain ⟨l, -, rfl⟩ := Option.map_eq_some_iff.1 hs
    exact ⟨.number l.number?, trivial, rfl⟩

lemma run_keyword : Run (fun c => 'a' ≤ c && c ≤ 'z') .word where
  bare c hc := by simp [isBare, hc]
  more acc read c hc := by simp only [Scan.step, hc, if_true]
  stop acc read c hc := by
    rw [Scan.settle_bind_step]
    simp only [Scan.step, hc, Bool.false_eq_true, if_false]
  settle acc read s hs := by
    obtain ⟨t, ht, rfl⟩ := Option.map_eq_some_iff.1 hs
    refine ⟨t, ?_, rfl⟩
    unfold wordToken? at ht
    split at ht
    · cases ht; trivial
    · split at ht
      · cases ht; trivial
      · split at ht
        · cases ht; trivial
        · cases ht

section

variable {kind : Char → Bool} {mode : List Char → Mode}

lemma Run.not_kind (hr : Run kind mode) {c : Char} (hc : isBare c = false) : kind c = false := by
  cases hk : kind c with
  | false => rfl
  | true =>
    rw [hr.bare c hk] at hc
    cases hc

lemma Run.foldlM (hr : Run kind mode) {w : List Char} (hw : ∀ c ∈ w, kind c) (acc : List Token)
    (read : List Char) :
    w.foldlM Scan.step ⟨acc, mode read⟩ = some ⟨acc, mode (w.reverse ++ read)⟩ := by
  induction w generalizing read with
  | nil => rfl
  | cons c w ih =>
    rw [List.foldlM_cons, hr.more acc read c (hw c (by simp)), Option.bind_eq_bind,
      Option.bind_some, ih fun d hd => hw d (by simp [hd])]
    simp

end

/-- A scan with tokens found before. -/
def Scan.over (s : Scan) (acc : List Token) : Scan := ⟨s.tokens ++ acc, s.mode⟩

section

variable (s : Scan) (acc : List Token)

lemma Scan.start_over (c : Char) : (s.over acc).start c = (s.start c).map fun s => s.over acc := by
  unfold Scan.start Scan.over
  split
  · rfl
  · split
    case h_8 =>
      split
      · rfl
      · split <;> rfl
    all_goals rfl

lemma Scan.settle_over : (s.over acc).settle = s.settle.map fun s => s.over acc := by
  obtain ⟨ts, m⟩ := s
  cases m <;> simp [Scan.settle, Scan.over, Function.comp_def]

lemma Scan.step_over (c : Char) : (s.over acc).step c = (s.step c).map fun s => s.over acc := by
  have hsettle : (s.over acc).settle.bind (·.start c) =
      (s.settle.bind (·.start c)).map fun s => s.over acc := by
    rw [Scan.settle_over]
    cases s.settle with
    | none => rfl
    | some s' => exact s'.start_over acc c
  obtain ⟨ts, m⟩ := s
  cases m with
  | gap => exact Scan.start_over ⟨ts, .gap⟩ acc c
  | text read =>
    simp only [Scan.over, Scan.step]
    split
    · rfl
    · split
      · rfl
      · split <;> rfl
  | escape read =>
    simp only [Scan.over, Scan.step]
    split
    · rfl
    · simp [Function.comp_def]
  | unicode read digits =>
    simp only [Scan.over, Scan.step]
    split
    · rfl
    · split <;> rfl
  | number read =>
    simp only [Scan.over, Scan.step] at hsettle ⊢
    split
    · rfl
    · exact hsettle
  | word read =>
    simp only [Scan.over, Scan.step] at hsettle ⊢
    split
    · rfl
    · exact hsettle

/-- The tokens found before play no role. -/
lemma scanOn_over (cs : List Char) :
    scanOn (s.over acc) cs = (scanOn s cs).map fun s => s.over acc := by
  induction cs generalizing s with
  | nil => exact s.settle_over acc
  | cons c cs ih =>
    rw [scanOn_cons, scanOn_cons, s.step_over]
    cases s.step c with
    | none => rfl
    | some s' => exact ih s'

end

lemma Spells.scanOn_eq {w : List Char} {t : Token} (h : Spells w t) (acc : List Token) :
    scanOn ⟨acc, .gap⟩ w = some ⟨t :: acc, .gap⟩ := by
  obtain ⟨⟨ts, m⟩, hs, ht⟩ := Option.map_eq_some_iff.1 h.read
  obtain ⟨s₀, -, hset⟩ := Option.bind_eq_some_iff.1 hs
  obtain rfl : m = .gap := Scan.settle_mode hset
  obtain rfl : ts = [t] := by simpa using ht
  have hover : scanOn ⟨acc, .gap⟩ w = (scanOn ⟨[], .gap⟩ w).map fun s => s.over acc :=
    scanOn_over ⟨[], .gap⟩ acc w
  rw [hover, show scanOn ⟨[], .gap⟩ w = _ from hs]
  rfl

/-- A word that is read as the token behind whichever tokens spells it. -/
lemma Spells.of_scanOn {w : List Char} {t : Token} {acc : List Token} (hshape : Shaped w t)
    (h : scanOn ⟨acc, .gap⟩ w = some ⟨t :: acc, .gap⟩) : Spells w t where
  shape := hshape
  read := by
    have hover : scanOn ⟨acc, .gap⟩ w = (scanOn ⟨[], .gap⟩ w).map fun s => s.over acc :=
      scanOn_over ⟨[], .gap⟩ acc w
    rw [hover] at h
    obtain ⟨⟨ts, m⟩, hs, h⟩ := Option.map_eq_some_iff.1 h
    have htokens : ts ++ acc = [t] ++ acc := congrArg Scan.tokens h
    rw [tokens?_eq, hs, List.append_cancel_right htokens]
    rfl

lemma foldlM_spells {ws : List (List Char)} {ts : List Token} (h : List.Forall₂ Spells ws ts)
    (acc : List Token) :
    ws.foldlM scanOn ⟨acc, .gap⟩ = some ⟨ts.reverse ++ acc, .gap⟩ := by
  induction h generalizing acc with
  | nil => rfl
  | cons hw _ ih =>
    rw [List.foldlM_cons, hw.scanOn_eq]
    refine (ih _).trans ?_
    simp

lemma tokens?_spaced {ws : List (List Char)} {s : List Char} (hs : Spaced ws s)
    (hw : ∀ w ∈ ws, Word w) (hc : ws.IsChain Behind) :
    tokens? s = (ws.foldlM scanOn ⟨[], .gap⟩).map fun s => s.tokens.reverse := by
  rw [tokens?_eq, scanOn_spaced hs hw (hc.imp fun _ _ h => h.apart)]

end Estate.Json
