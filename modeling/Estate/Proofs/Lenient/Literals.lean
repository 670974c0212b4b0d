import Mathlib.Data.List.Infix
import Estate.Proofs.Lenient.Found

/-!
The parts of a text: string literals, comments, and characters outside of both.

Every text has its parts in exactly one way, whether it is well formed or not. The first pass takes
the comments out and leaves the other parts as they are: what comes together where a comment stood
starts no other comment, since a slash that is left has no comment behind it. The second pass, which
knows no comments, takes commas out and nothing else.
-/

namespace Estate.Lenient

open Json (Quotable)

/-- A string literal with its quotes, a comment without the line feed behind it, or a character
outside of both. Literals and comments that do not end go up to the end of the text. -/
inductive Part where
  | literal (text : List Char)
  | comment (text : List Char)
  | char (c : Char)
deriving DecidableEq

namespace Part

def text : Part → List Char
  | literal t => t
  | comment t => t
  | char c => [c]

def isLiteral : Part → Bool
  | literal _ => true
  | _ => false

def isComment : Part → Bool
  | comment _ => true
  | _ => false

end Part

def literals (ps : List Part) : List Part := ps.filter (·.isLiteral)

def uncommented (ps : List Part) : List Part := ps.filter (!·.isComment)

/-- A slash with a slash or an asterisk behind it. -/
def opensComment (c : Char) (behind : List Char) : Bool :=
  c == '/' && (behind.head? == some '/' || behind.head? == some '*')

/-- The first part of a text and what stands behind it. The marks of comments may mean nothing. -/
inductive First (comments : Bool) : Part → List Char → List Char → Prop where
  | char {c : Char} {t : List Char} (hquote : c ≠ '"')
    (hopen : (comments && opensComment c t) = false) : First comments (.char c) t (c :: t)
  | literal {body t : List Char} (hbody : Quotable body) :
    First comments (.literal ('"' :: (body ++ ['"']))) t ('"' :: (body ++ '"' :: t))
  | openLiteral {body : List Char} (hbody : Unfinished body) :
    First comments (.literal ('"' :: body)) [] ('"' :: body)
  | line {body t : List Char} (hcomments : comments = true) (hbody : '\n' ∉ body) :
    First comments (.comment ('/' :: '/' :: body)) ('\n' :: t) ('/' :: '/' :: (body ++ '\n' :: t))
  | openLine {body : List Char} (hcomments : comments = true) (hbody : '\n' ∉ body) :
    First comments (.comment ('/' :: '/' :: body)) [] ('/' :: '/' :: body)
  | block {body t : List Char} (hcomments : comments = true) (hbody : Unclosed body) :
    First comments (.comment ('/' :: '*' :: (body ++ ['*', '/']))) t
      ('/' :: '*' :: (body ++ '*' :: '/' :: t))
  | openBlock {body : List Char} (hcomments : comments = true) (hbody : Unclosed body) :
    First comments (.comment ('/' :: '*' :: body)) [] ('/' :: '*' :: body)

/-- The parts of a text, one after the other. -/
inductive Divided (comments : Bool) : List Part → List Char → Prop where
  | nil : Divided comments [] []
  | cons {p : Part} {ps : List Part} {rest t : List Char} (hp : First comments p rest t)
    (hps : Divided comments ps rest) : Divided comments (p :: ps) t

/-! ### Every text has its parts -/

lemma eq_of_opensComment {c : Char} {cs : List Char} (h : opensComment c cs) :
    c = '/' ∧ ∃ t, cs = '/' :: t ∨ cs = '*' :: t := by
  simp only [opensComment, Bool.and_eq_true, Bool.or_eq_true, beq_iff_eq,
    List.head?_eq_some_iff] at h
  obtain ⟨hc, ⟨t, ht⟩ | ⟨t, ht⟩⟩ := h
  · exact ⟨hc, t, .inl ht⟩
  · exact ⟨hc, t, .inr ht⟩

lemma exists_first (comments : Bool) (c : Char) (cs : List Char) :
    ∃ p rest, First comments p rest (c :: cs) := by
  by_cases hquote : c = '"'
  · subst hquote
    rcases split_literal cs with hopen | ⟨body, rest, rfl, hbody⟩
    · exact ⟨_, _, .openLiteral hopen⟩
    · exact ⟨_, _, .literal hbody⟩
  · cases hopen : comments && opensComment c cs with
    | false => exact ⟨_, _, .char hquote hopen⟩
    | true =>
      obtain ⟨hcomments, hopen⟩ := (Bool.and_eq_true _ _).mp hopen
      obtain ⟨rfl, t, rfl | rfl⟩ := eq_of_opensComment hopen
      · rcases split_feed t with h | ⟨body, rest, rfl, hbody⟩
        · exact ⟨_, _, .openLine hcomments h⟩
        · exact ⟨_, _, .line hcomments hbody⟩
      · rcases split_block t with h | ⟨body, rest, rfl, hbody⟩
        · exact ⟨_, _, .openBlock hcomments h⟩
        · exact ⟨_, _, .block hcomments hbody⟩

lemma First.text_append {comments : Bool} {p : Part} {rest t : List Char}
    (h : First comments p rest t) : p.text ++ rest = t := by
  cases h <;> simp [Part.text]

lemma First.length_lt {comments : Bool} {p : Part} {rest t : List Char}
    (h : First comments p rest t) : rest.length < t.length := by
  have hpos : 0 < p.text.length := by cases h <;> simp [Part.text]
  rw [← h.text_append, List.length_append]
  omega

lemma Divided.text {comments : Bool} {ps : List Part} {t : List Char}
    (h : Divided comments ps t) : ps.flatMap Part.text = t := by
  induction h with
  | nil => rfl
  | cons hp _ ih => rw [List.flatMap_cons, ih, hp.text_append]

lemma exists_divided (comments : Bool) (t : List Char) : ∃ ps, Divided comments ps t := by
  induction hn : t.length using Nat.strongRecOn generalizing t with
  | ind n ih =>
    subst hn
    cases t with
    | nil => exact ⟨[], .nil⟩
    | cons c cs =>
      obtain ⟨p, rest, hp⟩ := exists_first comments c cs
      obtain ⟨ps, hps⟩ := ih rest.length hp.length_lt rest rfl
      exact ⟨p :: ps, .cons hp hps⟩

/-! ### No other way to divide a text -/

section

variable {a b s t : List Char}

/-- Where a mark ends a text that does not hold it, there is one such place. -/
lemma cut_unique (mark : List Char) (hmark : ∀ x s t : List Char, x ≠ [] →
      mark ++ s = x ++ (mark ++ t) → mark <+: x)
    (ha : ¬ mark <:+: a) (hb : ¬ mark <:+: b) (h : a ++ (mark ++ s) = b ++ (mark ++ t)) :
    a = b ∧ s = t := by
  have hno {x a s t : List Char} (hx : mark ++ s = x ++ (mark ++ t)) (ha : ¬ mark <:+: a ++ x) :
      x = [] := by
    by_contra hne
    exact ha ((hmark x s t hne hx).isInfix.trans (List.suffix_append a x).isInfix)
  rcases List.append_eq_append_iff.1 h with ⟨x, rfl, hx⟩ | ⟨x, rfl, hx⟩
  · obtain rfl := hno hx hb
    exact ⟨(List.append_nil a).symm, List.append_cancel_left hx⟩
  · obtain rfl := hno hx ha
    exact ⟨List.append_nil b, (List.append_cancel_left hx).symm⟩

lemma feed_unique (ha : '\n' ∉ a) (hb : '\n' ∉ b) (h : a ++ '\n' :: s = b ++ '\n' :: t) :
    a = b ∧ s = t := by
  refine cut_unique ['\n'] (fun x s t hne hx => ?_) ?_ ?_ h
  · obtain ⟨c, x, rfl⟩ := List.exists_cons_of_ne_nil hne
    obtain ⟨rfl, -⟩ := List.cons.inj hx
    exact ⟨x, rfl⟩
  · rwa [List.singleton_infix_iff]
  · rwa [List.singleton_infix_iff]

lemma block_unique (ha : Unclosed a) (hb : Unclosed b)
    (h : a ++ '*' :: '/' :: s = b ++ '*' :: '/' :: t) : a = b ∧ s = t := by
  refine cut_unique ['*', '/'] (fun x s t hne hx => ?_) ha hb h
  match x with
  | [] => exact absurd rfl hne
  | [c] => simp at hx
  | c :: d :: x =>
    simp only [List.cons_append, List.nil_append, List.cons.injEq] at hx
    obtain ⟨rfl, rfl, -⟩ := hx
    exact ⟨x, rfl⟩

lemma not_unclosed : ¬ Unclosed (b ++ '*' :: '/' :: t) :=
  fun h => h ⟨b, t, by simp⟩

lemma quotable_unique (ha : Quotable a) (hb : Quotable b) (h : a ++ '"' :: s = b ++ '"' :: t) :
    a = b ∧ s = t := by
  induction ha generalizing b with
  | nil =>
    cases hb with
    | nil => exact ⟨rfl, (List.cons.inj h).2⟩
    | plain hq _ _ => exact absurd (List.cons.inj h).1.symm hq
    | escaped c _ => exact absurd (List.cons.inj h).1 (by decide)
  | @plain c cs hq hback _ ih =>
    cases hb with
    | nil => exact absurd (List.cons.inj h).1 hq
    | plain _ _ hb =>
      simp only [List.cons_append, List.cons.injEq] at h
      obtain ⟨rfl, rfl⟩ := ih hb h.2
      exact ⟨by rw [h.1], rfl⟩
    | escaped d _ => exact absurd (List.cons.inj h).1 hback
  | @escaped c cs _ ih =>
    cases hb with
    | nil => exact absurd (List.cons.inj h).1 (by decide)
    | plain _ hback _ => exact absurd (List.cons.inj h).1.symm hback
    | escaped d hb =>
      simp only [List.cons_append, List.cons.injEq, true_and] at h
      obtain ⟨rfl, rfl⟩ := ih hb h.2
      exact ⟨by rw [h.1], rfl⟩

/-- A literal that does not end is no other one with something behind it. -/
lemma not_unfinished (ha : Unfinished a) (hb : Quotable b) : a ≠ b ++ '"' :: t := by
  induction hb generalizing a with
  | nil =>
    rintro rfl
    cases ha with
    | plain hq _ _ => exact hq rfl
  | @plain c cs hq hback _ ih =>
    intro h
    rw [List.cons_append] at h
    cases ha with
    | nil => cases h
    | backslash => exact hback (List.cons.inj h).1.symm
    | plain _ _ ha => exact ih ha (List.cons.inj h).2
    | escaped d _ => exact hback (List.cons.inj h).1.symm
  | @escaped c cs _ ih =>
    intro h
    rw [List.cons_append, List.cons_append] at h
    cases ha with
    | nil => cases h
    | backslash => cases (List.cons.inj h).2
    | plain _ hback _ => exact hback (List.cons.inj h).1
    | escaped d ha => exact ih ha (List.cons.inj (List.cons.inj h).2).2

end

section

variable {comments : Bool} {p q : Part} {s s' t : List Char}

lemma First.of_plain {c : Char} (h : First comments p s (c :: t)) (hquote : c ≠ '"')
    (hopen : (comments && opensComment c t) = false) : p = .char c ∧ s = t := by
  cases h with
  | char _ _ => exact ⟨rfl, rfl⟩
  | literal _ => exact absurd rfl hquote
  | openLiteral _ => exact absurd rfl hquote
  | _ hcomments _ => simp [hcomments, opensComment] at hopen

lemma First.of_quote (h : First comments p s ('"' :: t)) :
    (∃ body, Quotable body ∧ t = body ++ '"' :: s ∧ p = .literal ('"' :: (body ++ ['"']))) ∨
      Unfinished t ∧ s = [] ∧ p = .literal ('"' :: t) := by
  cases h with
  | char hquote _ => exact absurd rfl hquote
  | literal hbody => exact .inl ⟨_, hbody, rfl, rfl⟩
  | openLiteral hbody => exact .inr ⟨hbody, rfl, rfl⟩

lemma First.of_slashes (h : First true p s ('/' :: '/' :: t)) :
    (∃ body rest, '\n' ∉ body ∧ t = body ++ '\n' :: rest ∧ s = '\n' :: rest ∧
        p = .comment ('/' :: '/' :: body)) ∨
      '\n' ∉ t ∧ s = [] ∧ p = .comment ('/' :: '/' :: t) := by
  cases h with
  | char _ hopen => cases hopen
  | line _ hbody => exact .inl ⟨_, _, hbody, rfl, rfl, rfl⟩
  | openLine _ hbody => exact .inr ⟨hbody, rfl, rfl⟩

lemma First.of_asterisk (h : First true p s ('/' :: '*' :: t)) :
    (∃ body, Unclosed body ∧ t = body ++ '*' :: '/' :: s ∧
        p = .comment ('/' :: '*' :: (body ++ ['*', '/']))) ∨
      Unclosed t ∧ s = [] ∧ p = .comment ('/' :: '*' :: t) := by
  cases h with
  | char _ hopen => cases hopen
  | block _ hbody => exact .inl ⟨_, hbody, rfl, rfl⟩
  | openBlock _ hbody => exact .inr ⟨hbody, rfl, rfl⟩

lemma First.unique (hp : First comments p s t) (hq : First comments q s' t) :
    p = q ∧ s = s' := by
  cases hp with
  | char hquote hopen =>
    obtain ⟨rfl, rfl⟩ := hq.of_plain hquote hopen
    exact ⟨rfl, rfl⟩
  | literal hbody =>
    rcases hq.of_quote with ⟨body, hbody', h, rfl⟩ | ⟨hopen, -, -⟩
    · obtain ⟨rfl, rfl⟩ := quotable_unique hbody hbody' h
      exact ⟨rfl, rfl⟩
    · exact absurd rfl (not_unfinished hopen hbody)
  | openLiteral hopen =>
    rcases hq.of_quote with ⟨body, hbody, h, -⟩ | ⟨-, rfl, rfl⟩
    · exact absurd h (not_unfinished hopen hbody)
    · exact ⟨rfl, rfl⟩
  | line hcomments hbody =>
    subst hcomments
    rcases hq.of_slashes with ⟨body, rest, hbody', h, rfl, rfl⟩ | ⟨hopen, -, -⟩
    · obtain ⟨rfl, rfl⟩ := feed_unique hbody hbody' h
      exact ⟨rfl, rfl⟩
    · simp at hopen
  | openLine hcomments hopen =>
    subst hcomments
    rcases hq.of_slashes with ⟨body, rest, -, rfl, -, -⟩ | ⟨-, rfl, rfl⟩
    · simp at hopen
    · exact ⟨rfl, rfl⟩
  | block hcomments hbody =>
    subst hcomments
    rcases hq.of_asterisk with ⟨body, hbody', h, rfl⟩ | ⟨hopen, -, -⟩
    · obtain ⟨rfl, rfl⟩ := block_unique hbody hbody' h
      exact ⟨rfl, rfl⟩
    · exact absurd hopen not_unclosed
  | openBlock hcomments hopen =>
    subst hcomments
    rcases hq.of_asterisk with ⟨body, -, rfl, -⟩ | ⟨-, rfl, rfl⟩
    · exact absurd hopen not_unclosed
    · exact ⟨rfl, rfl⟩

lemma Divided.unique {ps qs : List Part} (hp : Divided comments ps t)
    (hq : Divided comments qs t) : ps = qs := by
  induction hp generalizing qs with
  | nil =>
    cases hq with
    | nil => rfl
    | cons hfirst _ => exact absurd hfirst.length_lt (by simp)
  | cons hfirst _ ih =>
    cases hq with
    | nil => exact absurd hfirst.length_lt (by simp)
    | cons hfirst' hrest' =>
      obtain ⟨rfl, rfl⟩ := hfirst.unique hfirst'
      rw [ih hrest']

end

/-! ### The first pass -/

section

variable {p : Part} {ps : List Part} {rest t : List Char}

lemma strip_char {c : Char} (hopen : opensComment c t = false) :
    stripFrom .outside (c :: t) = c :: stripFrom (if c == '"' then .string else .outside) t := by
  rw [stripFrom]
  all_goals
    rintro cs rfl rfl
    cases hopen

/-- What is left of a text starts as the text does, or the text starts with a comment. -/
lemma head_strip (h : t.head? ≠ some '/') : (stripFrom .outside t).head? = t.head? := by
  cases t with
  | nil => rw [stripFrom_nil]
  | cons c t =>
    have hc : c ≠ '/' := fun hc => h (congrArg some hc)
    rw [stripFrom_plain hc]
    rfl

/-- A character that starts no comment starts none in front of what is left of the rest. -/
lemma opensComment_strip {c : Char} (hopen : opensComment c t = false) :
    opensComment c (stripFrom .outside t) = false := by
  unfold opensComment at hopen ⊢
  by_cases hslash : t.head? = some '/'
  · simp_all
  · rwa [head_strip hslash]

lemma First.strip (hp : First true p rest t) (h : p.isComment = false) :
    First true p (stripFrom .outside rest) (stripFrom .outside t) := by
  cases hp with
  | char hquote hopen =>
    rw [strip_char hopen, beq_eq_false_iff_ne.2 hquote]
    exact .char hquote (opensComment_strip hopen)
  | literal hbody =>
    rw [stripFrom_plain (by decide), beq_self_eq_true, if_pos rfl, strip_quotable hbody]
    exact .literal hbody
  | openLiteral hbody =>
    rw [stripFrom_plain (by decide), beq_self_eq_true, if_pos rfl, strip_unfinished hbody,
      stripFrom_nil]
    exact .openLiteral hbody
  | _ => cases h

lemma First.strip_comment (hp : First true p rest t) (h : p.isComment) :
    stripFrom .outside t = stripFrom .outside rest := by
  cases hp with
  | line _ hbody =>
    rw [stripFrom, strip_line hbody, stripFrom_plain (by decide)]
    rfl
  | openLine _ hbody => rw [strip_ending (.ending (.line hbody)), stripFrom_nil]
  | block _ hbody => exact strip_block hbody _
  | openBlock _ hbody => rw [strip_ending (.block hbody), stripFrom_nil]
  | _ => cases h

lemma Divided.strip (h : Divided true ps t) :
    Divided true (uncommented ps) (stripFrom .outside t) := by
  unfold uncommented
  induction h with
  | nil => exact .nil
  | @cons p ps rest t hp _ ih =>
    cases hc : p.isComment with
    | true =>
      rw [List.filter_cons_of_neg (by simp [hc]), hp.strip_comment hc]
      exact ih
    | false =>
      rw [List.filter_cons_of_pos (by simp [hc])]
      exact .cons (hp.strip hc) ih

lemma First.unmarked (hp : First true p rest t) (h : p.isComment = false) :
    First false p rest t := by
  cases hp with
  | char hquote _ => exact .char hquote rfl
  | literal hbody => exact .literal hbody
  | openLiteral hbody => exact .openLiteral hbody
  | _ => cases h

lemma Divided.unmarked (hd : Divided true ps t) (h : ∀ p ∈ ps, p.isComment = false) :
    Divided false ps t := by
  induction hd with
  | nil => exact .nil
  | cons hp _ ih =>
    rw [List.forall_mem_cons] at h
    exact .cons (hp.unmarked h.1) (ih h.2)

lemma Divided.head_char {comments : Bool} {c : Char} (h : Divided comments (.char c :: ps) t) :
    t.head? = some c := by
  rw [← h.text]
  rfl

/-- A slash that is no part of a comment has neither a slash nor an asterisk behind it. -/
lemma Divided.not_slash_infix {c : Char} (hc : c = '/' ∨ c = '*') (h : Divided true ps t) :
    ¬ [.char '/', .char c] <:+: ps := by
  induction h with
  | nil => simp
  | @cons p ps rest t hp hps ih =>
    intro hinfix
    rcases List.infix_cons_iff.1 hinfix with hstart | hinfix
    · obtain ⟨rfl, ps', hps'⟩ := List.cons_prefix_cons.1 hstart
      rw [← hps'] at hps
      have hrest : rest.head? = some c := hps.head_char
      cases hp with
      | char _ hopen => rcases hc with rfl | rfl <;> simp [opensComment, hrest] at hopen
    · exact ih hinfix

end

/-! ### The second pass -/

section

variable {p : Part} {ps : List Part} {rest t : List Char}

lemma First.drop (hp : First false p rest t) (h : p ≠ .char ',') :
    First false p (dropFrom .outside rest) (dropFrom .outside t) := by
  cases hp with
  | char hquote _ =>
    rw [dropFrom_plain hquote fun hc => h (congrArg Part.char hc)]
    exact .char hquote rfl
  | literal hbody =>
    rw [drop_quote, drop_quotable hbody]
    exact .literal hbody
  | openLiteral hbody =>
    rw [drop_quote, drop_unfinished hbody, dropFrom_nil]
    exact .openLiteral hbody
  | _ hcomments _ => cases hcomments

lemma First.drop_comma (hp : First false (.char ',') rest t) :
    dropFrom .outside t = dropFrom .outside rest ∨
      First false (.char ',') (dropFrom .outside rest) (dropFrom .outside t) := by
  cases hp with
  | char hquote _ =>
    rw [Lenient.drop_comma]
    split
    · exact .inl rfl
    · exact .inr (.char hquote rfl)

/-- Commas outside of literals may be missing from what is left, and nothing else is. -/
lemma Divided.drop (h : Divided false ps t) :
    ∃ qs, Divided false qs (dropFrom .outside t) ∧ qs.Sublist ps ∧
      qs.filter (· ≠ .char ',') = ps.filter (· ≠ .char ',') := by
  induction h with
  | nil => exact ⟨[], .nil, .refl _, rfl⟩
  | @cons p ps rest t hp _ ih =>
    obtain ⟨qs, hqs, hsublist, hothers⟩ := ih
    by_cases hcomma : p = .char ','
    · subst hcomma
      rcases hp.drop_comma with hdropped | hkept
      · refine ⟨qs, hdropped ▸ hqs, hsublist.cons _, ?_⟩
        simpa using hothers
      · refine ⟨.char ',' :: qs, .cons hkept hqs, hsublist.cons_cons _, ?_⟩
        simpa using hothers
    · refine ⟨p :: qs, .cons (hp.drop hcomma) hqs, hsublist.cons_cons _, ?_⟩
      simpa [hcomma] using hothers

end

/-! ### What the passes leave -/

section

variable {ps qs : List Part}

lemma uncommented_uncommented (ps : List Part) : uncommented (uncommented ps) = uncommented ps := by
  simp [uncommented]

lemma literals_uncommented (ps : List Part) : literals (uncommented ps) = literals ps := by
  unfold literals uncommented
  rw [List.filter_filter]
  refine List.filter_congr fun p _ => ?_
  cases p <;> rfl

lemma literals_of_others (h : qs.filter (· ≠ .char ',') = ps.filter (· ≠ .char ',')) :
    literals qs = literals ps := by
  have hothers : ∀ rs : List Part, literals (rs.filter (· ≠ .char ',')) = literals rs := by
    intro rs
    unfold literals
    rw [List.filter_filter]
    refine List.filter_congr fun p _ => ?_
    cases p <;> simp [Part.isLiteral]
  rw [← hothers qs, h, hothers]

end

/-- Another pass finds no comments. -/
lemma strip_strip (t : List Char) : stripComments (stripComments t) = stripComments t := by
  obtain ⟨ps, hps⟩ := exists_divided true t
  have hstripped : Divided true (uncommented ps) (stripComments t) := hps.strip
  have htwice : Divided true (uncommented (uncommented ps)) (stripComments (stripComments t)) :=
    hstripped.strip
  rw [uncommented_uncommented] at htwice
  rw [← htwice.text, hstripped.text]

/-- Every text, well formed or not, has its parts in one way, with comments and without. What the
first pass leaves has the parts that are no comments, whether comments are looked for in it or not:
its literals are those of the text, and no slash outside of them has a slash or an asterisk behind
it. Another pass leaves it as it is. The second pass leaves the literals and takes nothing but
commas out. -/
theorem literals_stay (t : List Char) :
    (∃! ps, Divided true ps t) ∧ (∃! ps, Divided false ps t) ∧
    (∀ ps, Divided true ps t →
      Divided true (uncommented ps) (stripComments t) ∧
      Divided false (uncommented ps) (stripComments t) ∧
      (∀ c, [.char '/', .char c] <:+: uncommented ps → c ≠ '/' ∧ c ≠ '*') ∧
      literals (uncommented ps) = literals ps) ∧
    stripComments (stripComments t) = stripComments t ∧
    ∀ ps, Divided false ps t → ∃ qs, Divided false qs (dropTrailingCommas t) ∧
      literals qs = literals ps ∧ qs.Sublist ps ∧
      qs.filter (· ≠ .char ',') = ps.filter (· ≠ .char ',') := by
  have hunique (comments : Bool) : ∃! ps, Divided comments ps t := by
    obtain ⟨ps, hps⟩ := exists_divided comments t
    exact ⟨ps, hps, fun qs hqs => hqs.unique hps⟩
  refine ⟨hunique true, hunique false, fun ps hps => ?_, strip_strip t, fun ps hps => ?_⟩
  · have hstripped : Divided true (uncommented ps) (stripComments t) := hps.strip
    have hplain : ∀ p ∈ uncommented ps, p.isComment = false := by
      simp [uncommented]
    refine ⟨hstripped, hstripped.unmarked hplain, fun c hc => ?_, literals_uncommented ps⟩
    exact not_or.1 fun h => hstripped.not_slash_infix h hc
  · obtain ⟨qs, hqs, hsublist, hothers⟩ := hps.drop
    exact ⟨qs, hqs, literals_of_others hothers, hsublist, hothers⟩

/-- A mark of a comment in a literal and a quote in a comment. -/
theorem literals_stay_between_marks :
    ∃ ps, Divided true ps "\"//\"/*\"*/,]".toList ∧
      Divided false (uncommented ps) (stripComments "\"//\"/*\"*/,]".toList) ∧
      literals (uncommented ps) = [.literal "\"//\"".toList] := by
  have hliteral : Quotable ['/', '/'] :=
    .plain (by decide) (by decide) (.plain (by decide) (by decide) .nil)
  have hcomment : Unclosed ['"'] := by
    unfold Unclosed
    decide
  have hparts : Divided true
      [.literal "\"//\"".toList, .comment "/*\"*/".toList, .char ',', .char ']']
      "\"//\"/*\"*/,]".toList :=
    .cons (.literal hliteral) (.cons (.block rfl hcomment)
      (.cons (.char (by decide) rfl) (.cons (.char (by decide) rfl) .nil)))
  obtain ⟨-, hplain, -, -⟩ := (literals_stay _).2.2.1 _ hparts
  exact ⟨_, hparts, hplain, rfl⟩

end Estate.Lenient
