import Estate.Script.Token
import Estate.Proofs.Binary64.Whole
import Estate.Proofs.Json.Words
import Estate.Proofs.Text.Cutting

/-!
Places in scripts, and the tokens that stand there: signs, names and whole numbers, with blanks
before them.
-/

namespace Estate.Script

/-- The tokens stand at the first place, one behind the other, and the other place is behind
them. -/
def Stands : List Token → Cursor → Cursor → Prop
  | [], c, c' => c = c'
  | t :: ts, c, c' => c.token = t ∧ Stands ts c.next c'

lemma Stands.append {ts us : List Token} {a b c : Cursor} (h : Stands ts a b) (h' : Stands us b c) :
    Stands (ts ++ us) a c := by
  induction ts generalizing a with
  | nil =>
    cases h
    exact h'
  | cons t ts ih => exact ⟨h.1, ih h.2⟩

/-! ### Characters -/

/-- The characters that may stand behind a word of a literal, or behind the literal. -/
def breaks : List Char :=
  [' ', '\t', '\n', '\r', '\x7b', '\x7d', '[', ']', ':', ',', '"', ';']

def IsBreak (c : Char) : Prop := c ∈ breaks

instance (c : Char) : Decidable (IsBreak c) := inferInstanceAs (Decidable (c ∈ breaks))

lemma forall_break {p : Char → Bool} (h : breaks.all p = true) {c : Char} (hc : IsBreak c) : p c :=
  List.all_eq_true.1 h c hc

lemma isBreak_of_isGap {c : Char} (h : Json.isGap c) : IsBreak c := by
  have hc : c = ' ' ∨ c = '\t' ∨ c = '\n' ∨ c = '\r' := by
    simpa [Json.isGap, or_assoc] using h
  rcases hc with rfl | rfl | rfl | rfl <;> simp [IsBreak, breaks]

lemma isBreak_of_isMark {c : Char} (h : Json.isMark c) : IsBreak c := by
  rcases Json.mark_cases h with rfl | rfl | rfl | rfl | rfl | rfl <;> simp [IsBreak, breaks]

/-- What holds of the digits one by one. -/
lemma forall_digit {p : Char → Bool} (h : ∀ n < 10, p (Char.ofNat (48 + n)) = true) {c : Char}
    (hc : Text.isAsciiDigit c) : p c := by
  obtain ⟨hlow, hhigh⟩ := Text.toNat_between hc
  simp only [Char.reduceToNat] at hlow hhigh
  have hp := h (c.toNat - 48) (by omega)
  rwa [show 48 + (c.toNat - 48) = c.toNat by omega, Char.ofNat_toNat] at hp

lemma not_isNameStart_of_digit {c : Char} (hc : Text.isAsciiDigit c) : isNameStart c = false := by
  have h := forall_digit (p := fun c => !isNameStart c) (by decide) hc
  rwa [Bool.not_eq_true'] at h

/-! ### Blanks -/

/-- What holds of blanks and of what follows them holds of the start. -/
lemma forall_head_blanks {p : Char → Prop} {g cs : List Char} (hg : Json.Blanks g)
    (hblank : ∀ c, Json.isGap c → p c) (hcs : ∀ c ∈ cs.head?, p c) :
    ∀ c ∈ (g ++ cs).head?, p c := by
  intro c hc
  cases g with
  | nil => exact hcs c hc
  | cons b g =>
    cases hc
    exact hblank c (hg c (by simp))

lemma lineEnd_or_space {c : Char} (h : Json.isGap c) : isLineEnd c ∨ isSpace c := by
  have hc : c = ' ' ∨ c = '\t' ∨ c = '\n' ∨ c = '\r' := by
    simpa [Json.isGap, or_assoc] using h
  rcases hc with rfl | rfl | rfl | rfl <;> decide

lemma skipGap_blanks {g : List Char} (hg : Json.Blanks g) (fresh : Bool) (cs : List Char) :
    skipGap .blank fresh (g ++ cs) = skipGap .blank (fresh || g.any isLineEnd) cs := by
  induction g generalizing fresh with
  | nil => simp
  | cons c g ih =>
    have hrest : Json.Blanks g := fun d hd => hg d (by simp [hd])
    rw [List.cons_append, List.any_cons, skipGap.eq_def]
    dsimp only
    cases hend : isLineEnd c with
    | true => rw [if_pos rfl, ih hrest, Bool.true_or, Bool.or_true]
    | false =>
      have hspace := (lineEnd_or_space (hg c (by simp))).resolve_left (by simp [hend])
      rw [if_neg Bool.false_ne_true, if_pos hspace, ih hrest, Bool.false_or]

lemma at_blanks {g : List Char} (hg : Json.Blanks g) (fresh : Bool) (cs : List Char) :
    Cursor.at fresh (g ++ cs) = Cursor.at (fresh || g.any isLineEnd) cs := by
  unfold Cursor.at
  rw [skipGap_blanks hg]

/-- What is neither blank nor the start of a comment is the start of a token. -/
lemma at_start {c : Char} {cs : List Char} (hblank : isLineEnd c = false ∧ isSpace c = false)
    (hcomment : c ≠ '/' ∧ c ≠ '<' ∧ (c = '-' → cs.take 2 ≠ ['-', '>'])) (fresh : Bool) :
    Cursor.at fresh (c :: cs) = ⟨(tokenAt (c :: cs)).1, fresh, c :: cs,
      (c :: cs).drop (tokenAt (c :: cs)).2⟩ := by
  obtain ⟨hslash, hangle, hdash⟩ := hcomment
  have hskip : skipGap .blank fresh (c :: cs) = (fresh, c :: cs) := by
    rw [skipGap.eq_def]
    by_cases hc : c = '-'
    · simp [hblank.1, hblank.2, hslash, hangle, hdash hc]
    · simp [hblank.1, hblank.2, hslash, hangle, hc]
  rw [Cursor.at, hskip]

/-- One token is read, and the place behind it is the next. -/
lemma stands_one {t : Token} {size : Nat} {c : Char} {cs : List Char}
    (hblank : isLineEnd c = false ∧ isSpace c = false)
    (hcomment : c ≠ '/' ∧ c ≠ '<' ∧ (c = '-' → cs.take 2 ≠ ['-', '>']))
    (ht : tokenAt (c :: cs) = (t, size)) (fresh : Bool) :
    Stands [t] (Cursor.at fresh (c :: cs)) (Cursor.at false ((c :: cs).drop size)) := by
  rw [at_start hblank hcomment, ht]
  exact ⟨rfl, rfl⟩

/-! ### Signs -/

lemma tokenAt_mark {c : Char} (hc : Json.isMark c ∨ c = ';') (cs : List Char) :
    tokenAt (c :: cs) = (.sign (.singleton c), 1) := by
  have hcases : c = '\x7b' ∨ c = '\x7d' ∨ c = '[' ∨ c = ']' ∨ c = ':' ∨ c = ',' ∨ c = ';' := by
    rcases hc with hc | hc
    · rcases Json.mark_cases hc with h | h | h | h | h | h <;> simp [h]
    · simp [hc]
  rcases hcases with rfl | rfl | rfl | rfl | rfl | rfl | rfl <;> rfl

lemma tokenAt_sign {c : Char} {cs : List Char} {s : String}
    (hc : (c == '"' || c == '\'' || Text.isAsciiDigit c || c == '.' || isNameStart c || c == '\\' ||
      c == '#') = false) (h : signAt? (c :: cs) = some s) :
    tokenAt (c :: cs) = (.sign s, s.length) := by
  simp only [Bool.or_eq_false_iff] at hc
  obtain ⟨⟨⟨⟨⟨⟨hdouble, hsingle⟩, hdigit⟩, hpoint⟩, hname⟩, hescape⟩, hprivate⟩ := hc
  simp [tokenAt, hdouble, hsingle, hdigit, hpoint, hname, hescape, hprivate, h]

lemma tokenAt_equals {cs : List Char} (h : ∀ c ∈ cs.head?, c ≠ '=' ∧ c ≠ '>') :
    tokenAt ('=' :: cs) = (.sign "=", 1) := by
  refine tokenAt_sign rfl ?_
  cases cs with
  | nil => rfl
  | cons c cs =>
    obtain ⟨hequals, harrow⟩ := h c rfl
    have hequals : ('=' == c) = false := beq_eq_false_iff_ne.2 (Ne.symm hequals)
    have harrow : ('>' == c) = false := beq_eq_false_iff_ne.2 (Ne.symm harrow)
    simp [signAt?, signs, Text.after?, hequals, harrow]

lemma tokenAt_minus {c : Char} {cs : List Char} (hc : Text.isAsciiDigit c) :
    tokenAt ('-' :: c :: cs) = (.sign "-", 1) := by
  have hequals : ('=' == c) = false := by
    refine beq_eq_false_iff_ne.2 ?_
    rintro rfl
    cases hc
  have hminus : ('-' == c) = false := by
    refine beq_eq_false_iff_ne.2 ?_
    rintro rfl
    cases hc
  refine tokenAt_sign rfl ?_
  simp [signAt?, signs, Text.after?, hequals, hminus]

lemma tokenAt_point {c : Char} {cs : List Char} (hdigit : Text.isAsciiDigit c = false)
    (hc : c ≠ '.') : tokenAt ('.' :: c :: cs) = (.sign ".", 1) := by
  have hpoint : ('.' == c) = false := beq_eq_false_iff_ne.2 (Ne.symm hc)
  have hsign : signAt? ('.' :: c :: cs) = some "." := by
    simp [signAt?, signs, Text.after?, hpoint]
  have hother : isNameStart '.' = false ∧ Text.isAsciiDigit '.' = false := by decide
  simp only [tokenAt, hsign, hother.1, hother.2, List.head?_cons, Option.any_some, hdigit]
  rfl

/-! ### Names -/

lemma nameFrom_append {w rest : List Char} (hw : ∀ c ∈ w, isNamePart c)
    (hrest : ∀ c ∈ rest.head?, isNamePart c = false ∧ c ≠ '\\') :
    nameFrom 0 (w ++ rest) = (w, w.length) := by
  induction w with
  | nil =>
    cases rest with
    | nil => rfl
    | cons c rest =>
      obtain ⟨hpart, hescape⟩ := hrest c rfl
      simp [nameFrom, hpart, hescape]
  | cons c w ih =>
    simp [nameFrom, hw c (by simp), ih fun d hd => hw d (by simp [hd])]

lemma tokenAt_name {c : Char} {w rest : List Char} (hc : isNameStart c)
    (hw : ∀ d ∈ w, isNamePart d)
    (hrest : ∀ d ∈ rest.head?, isNamePart d = false ∧ d ≠ '\\') :
    tokenAt (c :: (w ++ rest)) = (.word (.ofList (c :: w)), w.length + 1) := by
  have hpart : ∀ d ∈ c :: w, isNamePart d := by
    intro d hd
    rcases List.mem_cons.1 hd with rfl | hd
    · simp [isNamePart, hc]
    · exact hw d hd
  have hname : nameFrom 0 (c :: (w ++ rest)) = (c :: w, w.length + 1) :=
    nameFrom_append hpart hrest
  have hquote : (c == '"' || c == '\'') = false := by
    rw [Bool.or_eq_false_iff]
    constructor
    · refine beq_eq_false_iff_ne.2 ?_
      rintro rfl
      exact absurd hc (by decide)
    · refine beq_eq_false_iff_ne.2 ?_
      rintro rfl
      exact absurd hc (by decide)
  have hnumber : (Text.isAsciiDigit c ||
      (c == '.' && (w ++ rest).head?.any Text.isAsciiDigit)) = false := by
    have hpoint : (c == '.') = false := by
      refine beq_eq_false_iff_ne.2 ?_
      rintro rfl
      exact absurd hc (by decide)
    rw [hpoint, Bool.false_and, Bool.or_false]
    cases hdigit : Text.isAsciiDigit c with
    | false => rfl
    | true =>
      rw [not_isNameStart_of_digit hdigit] at hc
      cases hc
  simp only [tokenAt, hquote, hnumber, hc, hname]
  simp

lemma not_blank_of_isNameStart {c : Char} (hc : isNameStart c) :
    isLineEnd c = false ∧ isSpace c = false := by
  have hother {d : Char} (hd : isNameStart d = false) : (c == d) = false := by
    refine beq_eq_false_iff_ne.2 ?_
    rintro rfl
    rw [hd] at hc
    cases hc
  have hmarks : isNameStart '\u2028' = false ∧ isNameStart '\u2029' = false ∧
      isNameStart '\ufeff' = false := by decide +kernel
  constructor
  · simp only [isLineEnd, Bool.or_eq_false_iff]
    exact ⟨⟨⟨hother (by decide), hother (by decide)⟩, hother hmarks.1⟩, hother hmarks.2.1⟩
  · have hlist : [' ', '\t', '\x0b', '\x0c', '\ufeff'].contains c = false := by
      simp only [List.contains_cons, List.contains_nil, Bool.or_eq_false_iff]
      exact ⟨hother (by decide), hother (by decide), hother (by decide), hother (by decide),
        hother hmarks.2.2, trivial⟩
    rw [isSpace, hlist, Bool.false_or, Bool.and_eq_false_imp]
    intro hhigh
    refine beq_eq_false_iff_ne.2 fun hcategory => ?_
    have hletter : Text.isAsciiLetter c = false := by
      cases hletter : Text.isAsciiLetter c with
      | false => rfl
      | true =>
        have hrange := Bool.or_eq_true_iff.1 hletter
        have hlow : c.toNat ≤ 122 := by
          rcases hrange with h | h
          · exact (Text.toNat_between h).2
          · exact Nat.le_trans (Text.toNat_between h).2 (by decide)
        rw [decide_eq_true_eq] at hhigh
        omega
    have hplain : (c == '$' || c == '_') = false := by
      rw [decide_eq_true_eq] at hhigh
      rw [Bool.or_eq_false_iff, beq_eq_false_iff_ne, beq_eq_false_iff_ne]
      constructor <;> rintro rfl <;> exact absurd hhigh (by decide)
    rw [isNameStart, Bool.or_assoc (Text.isAsciiLetter c), hletter, hplain, hcategory] at hc
    simp [Text.GeneralCategory.isLetter] at hc

/-- A name stands where its characters do. -/
lemma stands_name {c : Char} {w rest : List Char} (hc : isNameStart c)
    (hw : ∀ d ∈ w, isNamePart d)
    (hrest : ∀ d ∈ rest.head?, isNamePart d = false ∧ d ≠ '\\') (fresh : Bool) :
    Stands [.word (.ofList (c :: w))] (Cursor.at fresh (c :: (w ++ rest)))
      (Cursor.at false rest) := by
  have hne {d : Char} (hd : isNameStart d = false) : c ≠ d := by
    rintro rfl
    rw [hd] at hc
    cases hc
  have hstands := stands_one (not_blank_of_isNameStart hc)
    ⟨hne (by decide), hne (by decide), fun h => absurd h (hne (by decide))⟩
    (tokenAt_name hc hw hrest) fresh
  rwa [List.drop_succ_cons, List.drop_left] at hstands

/-! ### Whole numbers -/

lemma digitsIn_ten {ds rest : List Char} (hds : ∀ c ∈ ds, Text.isAsciiDigit c)
    (hrest : ∀ c ∈ rest.head?, IsBreak c) : digitsIn 10 (ds ++ rest) = ds := by
  refine Text.takeWhile_append_of_all (fun c hc => ?_) fun c hc => ?_
  · exact forall_digit (p := fun c => c == '_' || (Text.hexDigit? c).any (· < 10)) (by decide)
      (hds c hc)
  · have h := forall_break (p := fun c => !(c == '_' || (Text.hexDigit? c).any (· < 10)))
      (by decide) (hrest c hc)
    rwa [Bool.not_eq_true'] at h

lemma decimalAt_digits {ds rest : List Char} (hds : ∀ c ∈ ds, Text.isAsciiDigit c)
    (hrest : ∀ c ∈ rest.head?, IsBreak c) : decimalAt (ds ++ rest) = (ds, ds.length) := by
  have hplain : ds.filter (· != '_') = ds :=
    List.filter_eq_self.2 fun c hc => forall_digit (p := (· != '_')) (by decide) (hds c hc)
  unfold decimalAt
  simp only [digitsIn_ten hds hrest, List.drop_left]
  cases rest with
  | nil => simp [hplain]
  | cons c rest =>
    have hc := hrest c rfl
    have hpoint : c ≠ '.' := bne_iff_ne.1 (forall_break (p := (· != '.')) (by decide) hc)
    have hexponent : (c == 'e' || c == 'E') = false := by
      have h := forall_break (p := fun c => !(c == 'e' || c == 'E')) (by decide) hc
      rwa [Bool.not_eq_true'] at h
    simp [hpoint, hexponent, hplain]

/-- A number that starts with a zero is zero, so nothing tells another base. -/
lemma isBreak_of_zero {ds rest more : List Char} {c : Char} (h : Json.Numeral ds)
    (hrest : ∀ c ∈ rest.head?, IsBreak c) (heq : ds ++ rest = '0' :: c :: more) : IsBreak c := by
  obtain ⟨hne, -, hlean⟩ := h
  obtain ⟨d, ds, rfl⟩ := List.exists_cons_of_ne_nil hne
  rw [List.cons_append] at heq
  obtain ⟨rfl, htail⟩ := List.cons.inj heq
  rcases hlean with hlength | hzero
  · obtain rfl : ds = [] := by simpa using hlength
    rw [List.nil_append] at htail
    exact hrest c (by rw [htail]; rfl)
  · exact absurd rfl hzero

/-- The digits of a whole number are read as that number. -/
lemma numberAt_whole {ds rest : List Char} (h : Json.Numeral ds)
    (hvalue : Text.digitsValue ds ≤ 2 ^ 53) (hrest : ∀ c ∈ rest.head?, IsBreak c) :
    numberAt (ds ++ rest) = (.number (ofNat? (Text.digitsValue ds)), ds.length) := by
  have hwhole : (ds ++ rest).takeWhile Text.isAsciiDigit = ds := by
    refine Text.takeWhile_append_of_all h.digits fun c hc => ?_
    have hbreak := forall_break (p := fun c => !Text.isAsciiDigit c) (by decide) (hrest c hc)
    rwa [Bool.not_eq_true'] at hbreak
  have hoctal : (decide (ds.length > 1) && ds.head? == some '0' && ds.all (· < '8')) = false := by
    rcases h.lean with hlean | hlean
    · simp [hlean]
    · simp [hlean]
  have hbig : (rest.head? == some 'n') = false := by
    refine beq_eq_false_iff_ne.2 fun hn => ?_
    exact absurd (hrest 'n' hn) (by decide)
  unfold numberAt
  dsimp only
  split
  iterate 6 exact absurd (isBreak_of_zero h hrest (by assumption)) (by decide)
  rw [hwhole, hoctal, decimalAt_digits h.digits hrest, List.drop_left]
  simp [hbig, Binary64.literal?_whole h hvalue, ofNat?]

/-- A whole number stands where its digits do. -/
lemma tokenAt_whole {ds rest : List Char} (h : Json.Numeral ds)
    (hvalue : Text.digitsValue ds ≤ 2 ^ 53) (hrest : ∀ c ∈ rest.head?, IsBreak c) :
    tokenAt (ds ++ rest) = (.number (ofNat? (Text.digitsValue ds)), ds.length) := by
  have hnumber := numberAt_whole h hvalue hrest
  have hname : rest.head?.any isNameStart = false := by
    cases hc : rest.head? with
    | none => rfl
    | some c =>
      have hbreak := forall_break (p := fun c => !isNameStart c) (by decide) (hrest c hc)
      rwa [Bool.not_eq_true'] at hbreak
  obtain ⟨d, ds, rfl⟩ := List.exists_cons_of_ne_nil h.filled
  have hd : Text.isAsciiDigit d := h.digits d (by simp)
  have hquote : (d == '"' || d == '\'') = false := by
    have hplain := forall_digit (p := fun c => !(c == '"' || c == '\'')) (by decide) hd
    rwa [Bool.not_eq_true'] at hplain
  rw [List.cons_append] at hnumber ⊢
  simp only [tokenAt, hquote, hd, hnumber]
  rw [← List.cons_append, List.drop_left, hname]
  simp

end Estate.Script
