import Estate.Script.Value
import Estate.Proofs.Script.Literals

/-!
The reader of scripts at the tokens of a JSON text: it reads the expression that writes the same
value, if there is depth enough for the tokens.
-/

namespace Estate.Script

open Json (Value)

/-! ### Readers -/

/-- From a place the reader gives the value and goes on to the other place. -/
def Reads {α : Type} (x : Reader α) (c : Cursor) (a : α) (c' : Cursor) : Prop := x c = some (a, c')

/-- There is nothing for the reader at the place. -/
def Refuses {α : Type} (x : Reader α) (c : Cursor) : Prop := x c = none

section

variable {α β : Type} {x : Reader α} {f : α → Reader β} {a : α} {b : β} {c c' c'' : Cursor}

lemma Reads.bind (h : Reads x c a c') (h' : Reads (f a) c' b c'') : Reads (x >>= f) c b c'' := by
  change (x c).bind _ = _
  rw [show x c = some (a, c') from h]
  exact h'

lemma reads_pure (a : α) (c : Cursor) : Reads (pure a) c a c := rfl

lemma refuses_refuse (c : Cursor) : Refuses (refuse : Reader α) c := rfl

lemma Refuses.bind (h : Refuses x c) : Refuses (x >>= f) c := by
  change (x c).bind _ = _
  rw [show x c = none from h]
  rfl

lemma Reads.refuses_bind (h : Reads x c a c') (h' : Refuses (f a) c') : Refuses (x >>= f) c := by
  change (x c).bind _ = _
  rw [show x c = some (a, c') from h]
  exact h'

lemma Reads.either_right {y : Reader α} (hx : Refuses x c) (h : Reads y c a c') :
    Reads (either x y) c a c' := by
  change (x c).or (y c) = _
  rw [show x c = none from hx, show y c = some (a, c') from h]
  rfl

lemma Refuses.either {y : Reader α} (hx : Refuses x c) (hy : Refuses y c) :
    Refuses (either x y) c := by
  change (x c).or (y c) = _
  rw [show x c = none from hx, show y c = none from hy]
  rfl

lemma Reads.map {g : α → β} (h : Reads x c a c') : Reads (g <$> x) c (g a) c' := by
  change (x c).bind _ = _
  rw [show x c = some (a, c') from h]
  rfl

lemma Reads.discard (h : Reads x c a c') : Reads (discard x) c ⟨⟩ c' := by
  change (x c).bind _ = _
  rw [show x c = some (a, c') from h]
  rfl

lemma Refuses.discard (h : Refuses x c) : Refuses (discard x) c := by
  change (x c).bind _ = _
  rw [show x c = none from h]
  rfl

end

section

variable {c : Cursor} {s : String}

lemma reads_get (c : Cursor) : Reads get c c c := rfl

lemma reads_here (c : Cursor) : Reads here c c.token c := rfl

lemma reads_advance (c : Cursor) : Reads advance c () c.next := rfl

lemma takeSign_here (h : c.token = .sign s) : Reads (takeSign s) c true c.next := by
  refine (reads_here c).bind ?_
  rw [h, if_pos (beq_self_eq_true _)]
  exact (reads_advance c).bind (reads_pure _ _)

lemma takeSign_other (h : c.token ≠ .sign s) : Reads (takeSign s) c false c := by
  refine (reads_here c).bind ?_
  rw [if_neg (by simpa using h)]
  exact reads_pure _ _

lemma isSign_other (h : c.token ≠ .sign s) : Reads (isSign s) c false c := by
  refine (reads_here c).bind ?_
  rw [beq_eq_false_iff_ne.2 h]
  exact reads_pure _ _

lemma reads_isWord (c : Cursor) (s : String) : Reads (isWord s) c (c.token == .word s) c := rfl

lemma isWord_other (h : c.token ≠ .word s) : Reads (isWord s) c false c := by
  refine (reads_here c).bind ?_
  rw [beq_eq_false_iff_ne.2 h]
  exact reads_pure _ _

lemma expectSign_here (h : c.token = .sign s) : Reads (expectSign s) c () c.next :=
  (takeSign_here h).bind (reads_pure _ _)

lemma expectSign_other (h : c.token ≠ .sign s) : Refuses (expectSign s) c :=
  (takeSign_other h).refuses_bind (refuses_refuse c)

lemma takeName_here (h : c.token = .word s) (hs : s ∉ reservedWords) :
    Reads takeName c s c.next := by
  refine (reads_here c).bind ?_
  rw [h]
  dsimp only
  rw [if_neg (by simpa using hs)]
  exact (reads_advance c).bind (reads_pure _ _)

lemma takeName_reserved (h : c.token = .word s) (hs : s ∈ reservedWords) : Refuses takeName c := by
  refine (reads_here c).refuses_bind ?_
  rw [h]
  dsimp only
  rw [if_pos (by simpa using hs)]
  exact refuses_refuse c

lemma takeModifier_other (h : c.token.isWord = false) : Reads (takeModifier s) c false c := by
  refine (isWord_other fun hw => ?_).bind (reads_pure _ _)
  rw [hw] at h
  cases h

end

/-! ### Operands -/

/-- The signs that end an expression. -/
def stops : List String := [",", "]", "\x7d", ";", ")"]

/-- The token ends an operand with all that may follow it. -/
def Ends (t : Token) : Prop := ∃ s ∈ "=" :: stops, t = .sign s

/-- The token ends an expression. -/
def Stops (t : Token) : Prop := ∃ s ∈ stops, t = .sign s

lemma Stops.ends {t : Token} (h : Stops t) : Ends t := by
  obtain ⟨s, hs, rfl⟩ := h
  exact ⟨s, List.mem_cons_of_mem _ hs, rfl⟩

section

variable {c c' : Cursor} {e : Expression} {d : Nat}

lemma suffixes_ends (h : Ends c.token) : Reads (suffixes true e (d + 1)) c e c := by
  obtain ⟨s, hs, ht⟩ := h
  rw [suffixes]
  refine (reads_here c).bind ?_
  rw [ht]
  simp only [stops, List.mem_cons, List.not_mem_nil, or_false] at hs
  rcases hs with rfl | rfl | rfl | rfl | rfl | rfl <;> exact reads_pure _ _

lemma operands_ends (h : Ends c.token) : Reads (operands true e (d + 1)) c e c := by
  obtain ⟨s, hs, ht⟩ := h
  have hbinary : Reads (takeBinary true) c false c := by
    refine (reads_here c).bind ?_
    rw [ht]
    refine (reads_here c).bind ?_
    rw [ht]
    simp only [stops, List.mem_cons, List.not_mem_nil, or_false] at hs
    rcases hs with rfl | rfl | rfl | rfl | rfl | rfl <;> exact reads_pure _ _
  rw [operands]
  exact hbinary.bind (reads_pure _ _)

lemma Ends.ne {t : Token} {s : String} (h : Ends t) (hs : s ∉ "=" :: stops) : t ≠ .sign s := by
  obtain ⟨s', hs', rfl⟩ := h
  rintro heq
  cases heq
  exact hs hs'

lemma postfixed_suffixed {e' : Expression} {c'' : Cursor} (h : Reads (primary d) c e c')
    (hsuffixes : Reads (suffixes true e d) c' e' c'') (hends : Ends c''.token) :
    Reads (postfixed (d + 1)) c e' c'' := by
  rw [postfixed]
  refine h.bind (hsuffixes.bind ((reads_get c'').bind ?_))
  split
  · next ht => exact absurd ht (hends.ne (by decide))
  · next ht => exact absurd ht (hends.ne (by decide))
  · exact reads_pure _ _

lemma postfixed_ends (h : Reads (primary (d + 1)) c e c') (hends : Ends c'.token) :
    Reads (postfixed (d + 2)) c e c' :=
  postfixed_suffixed h (suffixes_ends hends) hends

lemma conditional_ends (h : Reads (operand (d + 1)) c e c') (hends : Ends c'.token) :
    Reads (conditional true (d + 2)) c e c' := by
  rw [conditional]
  refine h.bind ((operands_ends hends).bind ((takeSign_other (hends.ne (by decide))).bind ?_))
  exact reads_pure _ _

lemma assignment_stops (harrow : Refuses (arrow true (d + 2)) c)
    (h : Reads (operand (d + 1)) c e c') (hstops : Stops c'.token) :
    Reads (assignment true (d + 3)) c e c' := by
  rw [assignment]
  refine .either_right harrow ((conditional_ends h hstops.ends).bind ((reads_here c').bind ?_))
  obtain ⟨s, hs, ht⟩ := hstops
  rw [ht]
  simp only [stops, List.mem_cons, List.not_mem_nil, or_false] at hs
  rcases hs with rfl | rfl | rfl | rfl | rfl <;> exact reads_pure _ _

/-- The expression is no function written with an arrow. -/
lemma arrow_other (hsign : c.token ≠ .sign "(")
    (hword : ∀ s, c.token = .word s → s ∈ reservedWords) : Refuses (arrow true (d + 1)) c := by
  rw [arrow]
  refine (reads_get c).refuses_bind ?_
  have hasync : c.token ≠ .word "async" := fun h => absurd (hword _ h) (by decide)
  refine (isWord_other hasync).refuses_bind ?_
  rw [Bool.false_and, if_neg Bool.false_ne_true]
  refine (reads_here c).refuses_bind ?_
  split
  · next h => exact absurd h hsign
  · next s h => exact (takeName_reserved h (hword s h)).discard.bind
  · exact (refuses_refuse c).bind

/-- A literal starts with the token, and no sign before an operand. -/
def Plain : Token → Prop
  | .number _ => True
  | .text _ => True
  | .sign s => s = "[" ∨ s = "\x7b"
  | .word s => s = "null" ∨ s = "true" ∨ s = "false"
  | _ => False

lemma arrow_plain (h : Plain c.token) : Refuses (arrow true (d + 1)) c := by
  refine arrow_other ?_ fun s hs => ?_
  · intro ht
    rw [ht] at h
    rcases h with h | h <;> exact absurd h (by decide)
  · rw [hs] at h
    rcases h with rfl | rfl | rfl <;> decide

lemma operand_plain (ht : Plain c.token) (h : Reads (postfixed d) c e c') :
    Reads (operand (d + 1)) c e c' := by
  rw [operand]
  refine (reads_get c).bind ?_
  generalize c.token = t at ht
  cases t with
  | number _ => exact h
  | text _ => exact h
  | sign s => rcases ht with rfl | rfl <;> exact h
  | word s => rcases ht with rfl | rfl | rfl <;> exact h
  | _ => cases ht

/-- The token is all of a literal. -/
inductive Atom : Token → Expression → Prop where
  | null : Atom (.word "null") .null
  | bool (b : Bool) : Atom (.word (toString b)) (.bool b)
  | number (x : Option Binary64) : Atom (.number x) (.number x)
  | text (s : Option String) : Atom (.text s) (.text s)

lemma Atom.plain {t : Token} (h : Atom t e) : Plain t := by
  cases h with
  | null => exact .inl rfl
  | bool b =>
    cases b
    · exact .inr (.inr rfl)
    · exact .inr (.inl rfl)
  | number => trivial
  | text => trivial

lemma primary_atom (h : Atom c.token e) : Reads (primary (d + 1)) c e c.next := by
  rw [primary]
  refine (reads_get c).bind ?_
  generalize c.token = t at h
  cases h with
  | bool b => cases b <;> exact (reads_advance c).bind (reads_pure _ _)
  | _ => exact (reads_advance c).bind (reads_pure _ _)

lemma primary_array {list : List (Option Expression)} (ht : c.token = .sign "[")
    (h : Reads (items d) c.next list c') : Reads (primary (d + 1)) c (.array list) c' := by
  rw [primary]
  refine (reads_get c).bind ?_
  rw [ht]
  exact (reads_advance c).bind (h.bind (reads_pure _ _))

lemma primary_object {list : List (Key × Expression)} (ht : c.token = .sign "\x7b")
    (h : Reads (members d) c.next list c') : Reads (primary (d + 1)) c (.object list) c' := by
  rw [primary]
  refine (reads_get c).bind ?_
  rw [ht]
  exact (reads_advance c).bind (h.bind (reads_pure _ _))

/-- A literal is read as an assignment where its first operand is, if nothing follows it. -/
lemma assignment_plain (ht : Plain c.token) (h : Reads (primary (d + 1)) c e c')
    (hstops : Stops c'.token) : Reads (assignment true (d + 5)) c e c' :=
  assignment_stops (arrow_plain ht) (operand_plain ht (postfixed_ends h hstops.ends)) hstops

lemma assignment_atom (h : Atom c.token e) (hstops : Stops c.next.token) :
    Reads (assignment true (d + 5)) c e c.next :=
  assignment_plain h.plain (primary_atom h) hstops

lemma assignment_negative {x : Option Binary64} (hsign : c.token = .sign "-")
    (hnumber : c.next.token = .number x) (hstops : Stops c.next.next.token) :
    Reads (assignment true (d + 6)) c (.negative (.number x)) c.next.next := by
  have hatom : Atom c.next.token (.number x) := by
    rw [hnumber]
    exact .number x
  have hrest : Reads (operand (d + 3)) c.next (.number x) c.next.next :=
    operand_plain hatom.plain (postfixed_ends (primary_atom hatom) hstops.ends)
  refine assignment_stops (arrow_other ?_ ?_) ?_ hstops
  · simp [hsign]
  · simp [hsign]
  · rw [operand]
    refine (reads_get c).bind ?_
    rw [hsign]
    exact (reads_advance c).bind (hrest.bind (reads_pure _ _))

/-! ### Items and members -/

section

variable {first : Expression} {list : List (Option Expression)}

lemma items_close (ht : c.token = .sign "]") : Reads (items (d + 1)) c [] c.next := by
  rw [items]
  exact (takeSign_here ht).bind (reads_pure _ _)

/-- An item comes next. -/
structure OpensItem (t : Token) : Prop where
  close : t ≠ .sign "]"
  comma : t ≠ .sign ","
  spread : t ≠ .sign "..."

lemma items_last (hopen : OpensItem c.token) (h : Reads (assignment true d) c first c')
    (hclose : c'.token = .sign "]") : Reads (items (d + 1)) c [some first] c'.next := by
  rw [items]
  refine (takeSign_other hopen.close).bind ?_
  refine (takeSign_other hopen.comma).bind ?_
  refine (takeSign_other hopen.spread).discard.bind ?_
  refine h.bind ((takeSign_other (by simp [hclose])).bind ?_)
  exact (expectSign_here hclose).bind (reads_pure _ _)

lemma items_more (hopen : OpensItem c.token) (h : Reads (assignment true d) c first c')
    (hcomma : c'.token = .sign ",") {c'' : Cursor} (hmore : Reads (items d) c'.next list c'') :
    Reads (items (d + 1)) c (some first :: list) c'' := by
  rw [items]
  refine (takeSign_other hopen.close).bind ?_
  refine (takeSign_other hopen.comma).bind ?_
  refine (takeSign_other hopen.spread).discard.bind ?_
  exact h.bind ((takeSign_here hcomma).bind (hmore.bind (reads_pure _ _)))

end

section

variable {name : String} {first : Key × Expression} {list : List (Key × Expression)}

lemma key_text (ht : c.token = .text (some name)) :
    Reads (key (d + 1)) c (.name name) c.next := by
  rw [key]
  refine (reads_here c).bind ?_
  rw [ht]
  exact (reads_advance c).bind (reads_pure _ _)

lemma member_text (ht : c.token = .text (some name)) (hcolon : c.next.token = .sign ":")
    (h : Reads (assignment true (d + 1)) c.next.next e c') :
    Reads (member (d + 2)) c (some (.name name, e)) c' := by
  have hsign (s : String) : Reads (takeSign s) c false c := takeSign_other (by simp [ht])
  have hword (s : String) : Reads (takeModifier s) c false c :=
    takeModifier_other (by rw [ht]; rfl)
  rw [member]
  refine (hsign _).bind ((hword _).bind ((hsign _).bind ?_))
  refine (hword _).bind ((hword _).bind ((reads_get c).bind ((key_text ht).bind ?_)))
  refine (isSign_other (by simp [hcolon])).bind ?_
  exact (takeSign_here hcolon).bind (h.bind (reads_pure _ _))

lemma members_close (ht : c.token = .sign "\x7d") : Reads (members (d + 1)) c [] c.next := by
  rw [members]
  exact (takeSign_here ht).bind (reads_pure _ _)

lemma members_last (hopen : c.token ≠ .sign "\x7d") (h : Reads (member d) c (some first) c')
    (hclose : c'.token = .sign "\x7d") : Reads (members (d + 1)) c [first] c'.next := by
  rw [members]
  refine (takeSign_other hopen).bind (h.bind ((takeSign_other (by simp [hclose])).bind ?_))
  exact (expectSign_here hclose).bind (reads_pure _ _)

lemma members_more (hopen : c.token ≠ .sign "\x7d") (h : Reads (member d) c (some first) c')
    (hcomma : c'.token = .sign ",") {c'' : Cursor} (hmore : Reads (members d) c'.next list c'') :
    Reads (members (d + 1)) c (first :: list) c'' := by
  rw [members]
  refine (takeSign_other hopen).bind (h.bind ((takeSign_here hcomma).bind ?_))
  exact hmore.bind (reads_pure _ _)

end

end

end Estate.Script
