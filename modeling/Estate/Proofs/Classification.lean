import Estate.PropertyType
import Estate.Proofs.Text.Lowering
import Estate.Proofs.Text.Marks

/-!
Categories of joined texts.

A word of a category that stands across the space between two texts has a space itself, and what it
has behind its last space is a word of the category too. So a category is found in two texts with a
space between them exactly if it is found in one of them, and the texts together have the category
that comes first of those that each of them has.
-/

namespace Estate.PropertyType

open Text

/-! ### Words -/

/-- A word stands in a text, in capital or small letters, with no word character next to it;
`before` is the character in front of the text. -/
def Occurs (word : List Char) (before : Option Char) (cs : List Char) : Prop :=
  ∃ front x back, cs = front ++ x ++ back ∧ x.map foldChar = word ∧
    (∀ c ∈ front.getLast?.or before, isWord c = false) ∧ ∀ c ∈ back.head?, isWord c = false

lemma afterFolded?_eq_some {word cs rest : List Char} :
    afterFolded? word cs = some rest ↔ ∃ x, cs = x ++ rest ∧ x.map foldChar = word := by
  fun_induction afterFolded? word cs with
  | case1 cs => simp
  | case2 => simp
  | case3 w ws c cs h ih =>
    rw [ih]
    constructor
    · rintro ⟨x, rfl, rfl⟩
      exact ⟨c :: x, rfl, by rw [List.map_cons, ← beq_iff_eq.1 h]⟩
    · rintro ⟨x, heq, hx⟩
      obtain ⟨d, x, rfl, -, rfl⟩ := List.map_eq_cons_iff.1 hx
      obtain ⟨rfl, rfl⟩ := List.cons.inj heq
      exact ⟨x, rfl, rfl⟩
  | case4 w ws c cs h =>
    refine iff_of_false (by simp) ?_
    rintro ⟨x, heq, hx⟩
    obtain ⟨d, x, rfl, hd, -⟩ := List.map_eq_cons_iff.1 hx
    obtain ⟨rfl, -⟩ := List.cons.inj heq
    exact h (beq_iff_eq.2 hd.symm)

lemma any_isWord_eq_false {o : Option Char} :
    o.any isWord = false ↔ ∀ c ∈ o, isWord c = false := by
  cases o <;> simp

lemma getLast?_cons_or (c : Char) (front : List Char) (before : Option Char) :
    (c :: front).getLast?.or before = front.getLast?.or (some c) := by
  rw [List.getLast?_cons]
  cases front.getLast? <;> rfl

lemma hasWord_iff {word cs : List Char} {before : Option Char} (hne : word ≠ []) :
    hasWord word before cs ↔ Occurs word before cs := by
  induction cs generalizing before with
  | nil =>
    refine iff_of_false (by simp [hasWord]) ?_
    rintro ⟨front, x, back, heq, rfl, -⟩
    simp at heq hne
    exact hne heq.2.1
  | cons c cs ih =>
    rw [hasWord, Bool.or_eq_true, ih]
    constructor
    · rintro (hhere | ⟨front, x, back, rfl, hx, hfront, hback⟩)
      · split at hhere
        · next rest hafter =>
          obtain ⟨x, heq, hx⟩ := afterFolded?_eq_some.1 hafter
          simp only [Bool.and_eq_true, Bool.not_eq_true', any_isWord_eq_false] at hhere
          exact ⟨[], x, rest, heq, hx, hhere⟩
        · cases hhere
      · exact ⟨c :: front, x, back, rfl, hx, by rwa [getLast?_cons_or], hback⟩
    · rintro ⟨front, x, back, heq, hx, hfront, hback⟩
      cases front with
      | nil =>
        refine .inl ?_
        rw [afterFolded?_eq_some.2 ⟨x, heq, hx⟩]
        simp only [Bool.and_eq_true, Bool.not_eq_true', any_isWord_eq_false]
        exact ⟨hfront, hback⟩
      | cons d front =>
        obtain ⟨rfl, rfl⟩ := List.cons.inj heq
        exact .inr ⟨front, x, back, rfl, hx, by rwa [← getLast?_cons_or], hback⟩

/-- Nothing but a space stands for a space. -/
lemma eq_space_of_foldChar {c : Char} (h : foldChar c = ' ') : c = ' ' := by
  have hascii : ∀ n < 128, lowerAscii (.ofNat n) = ' ' → Char.ofNat n = ' ' := by decide
  have htable : foldedLetters.all fun e => Char.ofNat e.2 != ' ' := by decide +kernel
  rw [foldChar] at h
  split_ifs at h with hlow
  · exact forall_below (p := fun c => lowerAscii c = ' ' → c = ' ') hascii hlow h
  · rcases counterpart_cases foldedLetters c with ⟨heq, -⟩ | ⟨e, he, heq⟩
    · rw [← heq, h]
    · have hother := List.all_eq_true.1 htable e he
      simp [← heq, h] at hother

/-! ### Two texts -/

section

variable {word a b : List Char}

/-- Behind a space a word can stand where it can stand at the start. -/
lemma unworded_behind_space {front : List Char} :
    (∀ c ∈ (a ++ ' ' :: front).getLast?.or none, isWord c = false) ↔
      ∀ c ∈ front.getLast?.or none, isWord c = false := by
  have hspace : isWord ' ' = false := by decide
  rw [List.getLast?_append_cons, getLast?_cons_or]
  cases front.getLast? <;> simp [hspace]

lemma occurs_joined_left (h : Occurs word none a) : Occurs word none (a ++ ' ' :: b) := by
  obtain ⟨front, x, back, rfl, hx, hfront, hback⟩ := h
  refine ⟨front, x, back ++ ' ' :: b, by simp, hx, hfront, fun c hc => ?_⟩
  cases back with
  | nil =>
    obtain rfl := Option.some.inj hc
    decide
  | cons d back => exact hback c hc

lemma occurs_joined_right (h : Occurs word none b) : Occurs word none (a ++ ' ' :: b) := by
  obtain ⟨front, x, back, rfl, hx, hfront, hback⟩ := h
  exact ⟨a ++ ' ' :: front, x, back, by simp, hx, unworded_behind_space.2 hfront, hback⟩

/-- What a word has behind its last space. -/
def lastPart (word : List Char) : List Char :=
  word.foldl (fun part c => if c = ' ' then [] else part ++ [c]) []

lemma lastPart_append (front back : List Char) :
    lastPart (front ++ ' ' :: back) = lastPart back := by
  rw [lastPart, List.foldl_append, List.foldl_cons, if_pos rfl]
  rfl

lemma lastPart_cases (word : List Char) :
    lastPart word = word ∨ ∃ front, word = front ++ ' ' :: lastPart word := by
  have hfold : ∀ (word part : List Char),
      let last := word.foldl (fun part c => if c = ' ' then [] else part ++ [c]) part
      last = part ++ word ∨ ∃ front, word = front ++ ' ' :: last := by
    intro word
    induction word with
    | nil => simp
    | cons c word ih =>
      intro part
      rw [List.foldl_cons]
      split_ifs with hc
      · subst hc
        rcases ih [] with hlast | ⟨front, hlast⟩
        · exact .inr ⟨[], congrArg _ hlast.symm⟩
        · exact .inr ⟨' ' :: front, congrArg _ hlast⟩
      · rcases ih (part ++ [c]) with hlast | ⟨front, hlast⟩
        · exact .inl (by simp [hlast])
        · exact .inr ⟨c :: front, congrArg _ hlast⟩
  exact hfold word []

/-- With a word, what it has behind its last space stands in the text. -/
lemma occurs_lastPart (h : Occurs word none a) : Occurs (lastPart word) none a := by
  rcases lastPart_cases word with heq | ⟨start, heq⟩
  · rwa [heq]
  · obtain ⟨front, x, back, rfl, hx, -, hback⟩ := h
    rw [heq] at hx
    obtain ⟨y, z, rfl, -, hz⟩ := List.map_eq_append_iff.1 hx
    obtain ⟨c, z, rfl, hc, hlast⟩ := List.map_eq_cons_iff.1 hz
    obtain rfl := eq_space_of_foldChar hc
    refine ⟨front ++ y ++ [' '], z, back, by simp, hlast, fun c hmem => ?_, hback⟩
    obtain rfl : ' ' = c := by simpa using hmem
    decide

/-- A word stands in the first of two texts, or its last part stands in the second one. -/
lemma occurs_of_joined (h : Occurs word none (a ++ ' ' :: b)) :
    Occurs word none a ∨ Occurs (lastPart word) none b := by
  obtain ⟨front, x, back, heq, hx, hfront, hback⟩ := h
  have hin : ∀ rest, a = front ++ x ++ rest → (∀ c ∈ rest.head?, isWord c = false) →
      Occurs word none a := fun rest ha hrest => ⟨front, x, rest, ha, hx, hfront, hrest⟩
  have hacross : ∀ {y z}, x = y ++ ' ' :: z → b = z ++ back → Occurs (lastPart word) none b := by
    rintro y z rfl rfl
    rw [← hx, List.map_append, List.map_cons, show foldChar ' ' = ' ' by decide, lastPart_append]
    exact occurs_lastPart ⟨[], z, back, rfl, rfl, by simp, hback⟩
  rcases List.append_eq_append_iff.1 heq with ⟨rest, hwhole, hrest⟩ | ⟨rest, ha, rfl⟩
  · cases rest with
    | nil => exact .inl (hin [] (by simpa using hwhole.symm) (by simp))
    | cons c rest =>
      obtain ⟨rfl, rfl⟩ := List.cons.inj hrest
      rcases List.append_eq_append_iff.1 hwhole with ⟨y, rfl, rfl⟩ | ⟨y, rfl, hy⟩
      · exact .inr (hacross rfl rfl)
      · cases y with
        | nil => exact .inr (hacross (y := []) (by simpa using hy.symm) rfl)
        | cons d y =>
          obtain ⟨rfl, rfl⟩ := List.cons.inj hy
          exact .inr (occurs_lastPart
            ⟨y, x, back, rfl, hx, unworded_behind_space.1 hfront, hback⟩)
  · exact .inl (hin rest ha fun c hc => hback c (List.mem_head?_append_of_mem_head? hc))

end

/-! ### Categories -/

/-- A word of the category stands in the text. -/
def said (t : PropertyType) (cs : List Char) : Bool := t.words.any fun w => hasWord w.toList none cs

lemma words_ne_nil {t : PropertyType} {w : String} (h : w ∈ t.words) : w.toList ≠ [] := by
  have hall : ∀ w ∈ t.words, w.toList ≠ [] := by cases t <;> decide
  exact hall w h

/-- What a word of a category has behind its last space is a word of it. -/
lemma lastPart_mem_words {t : PropertyType} {w : String} (h : w ∈ t.words) :
    ∃ v ∈ t.words, v.toList = lastPart w.toList := by
  have hall : ∀ w ∈ t.words, ∃ v ∈ t.words, v.toList = lastPart w.toList := by
    cases t <;> decide +kernel
  exact hall w h

lemma said_iff {t : PropertyType} {cs : List Char} :
    said t cs ↔ ∃ w ∈ t.words, Occurs w.toList none cs := by
  rw [said, List.any_eq_true]
  exact exists_congr fun w => and_congr_right fun hw => hasWord_iff (words_ne_nil hw)

/-- A category is found in two texts if it is found in one of them. -/
lemma said_joined (t : PropertyType) (a b : List Char) :
    said t (a ++ ' ' :: b) = (said t a || said t b) := by
  rw [Bool.eq_iff_iff, Bool.or_eq_true, said_iff, said_iff, said_iff]
  constructor
  · rintro ⟨w, hw, h⟩
    rcases occurs_of_joined h with h | h
    · exact .inl ⟨w, hw, h⟩
    · obtain ⟨v, hv, hlast⟩ := lastPart_mem_words hw
      exact .inr ⟨v, hv, by rwa [hlast]⟩
  · rintro (⟨w, hw, h⟩ | ⟨w, hw, h⟩)
    · exact ⟨w, hw, occurs_joined_left h⟩
    · exact ⟨w, hw, occurs_joined_right h⟩

/-! ### Order -/

/-- The categories, the more special ones first. -/
def order : List PropertyType :=
  [studio, apartment, villa, house, land, office, commercial, garage, storage, other]

/-- The one of two members that comes first in a list. -/
def firstOf {α : Type} [BEq α] (list : List α) (a b : α) : α :=
  if list.idxOf a ≤ list.idxOf b then a else b

section

variable {α : Type} [BEq α] [LawfulBEq α] {a b c : α} {list : List α}

lemma firstOf_cons_left : firstOf (a :: list) a b = a :=
  if_pos (by simp)

lemma firstOf_cons_right (hb : b ≠ a) : firstOf (a :: list) b a = a :=
  if_neg (by simp [List.idxOf_cons_ne _ hb.symm])

lemma firstOf_cons (hb : b ≠ a) (hc : c ≠ a) :
    firstOf (a :: list) b c = firstOf list b c := by
  simp [firstOf, List.idxOf_cons_ne _ hb.symm, List.idxOf_cons_ne _ hc.symm]

/-- What is found first by either of two marks is what comes first of what is found by each, where
what is not found comes last. -/
lemma find?_or {p q : α → Bool} {last : α} (hlast : last ∉ list) :
    (list.find? fun a => p a || q a).getD last =
      firstOf (list ++ [last]) ((list.find? p).getD last) ((list.find? q).getD last) := by
  induction list with
  | nil => simp [firstOf]
  | cons a list ih =>
    obtain ⟨hne, hmore⟩ := not_or.1 (List.mem_cons.not.1 hlast)
    have hother : ∀ r : α → Bool, r a = false → (list.find? r).getD last ≠ a := by
      intro r hr
      cases hfind : list.find? r with
      | none => exact hne
      | some b =>
        rintro rfl
        exact absurd (List.find?_some hfind) (by simpa using hr)
    rw [List.find?_cons, List.find?_cons, List.find?_cons, List.cons_append]
    cases hp : p a with
    | true => exact firstOf_cons_left.symm
    | false =>
      cases hq : q a with
      | true => exact (firstOf_cons_right (hother p hp)).symm
      | false => exact (ih hmore).trans (firstOf_cons (hother p hp) (hother q hq)).symm

end

/-- The categories tried are all but the last one. -/
lemma ranked_eq : ranked ++ [other] = order := rfl

lemma classify_eq (text : String) :
    classify text =
      (ranked.find? (said · (Text.withoutMarks text).toList)).getD other := rfl

/-- **Texts together**: with a space between them, two texts have the category that comes first of
those each of them has, and marks do not count. -/
theorem classify_joined (a b : String) :
    classify (a ++ " " ++ b) = firstOf order (classify a) (classify b) ∧
      classify a = classify (Text.withoutMarks a) := by
  constructor
  · have hspace : (withoutMarks " ").toList = [' '] := by decide
    have hplain : (withoutMarks (a ++ " " ++ b)).toList =
        (withoutMarks a).toList ++ ' ' :: (withoutMarks b).toList := by
      simp [withoutMarks_append, hspace]
    rw [classify_eq, hplain]
    simp only [said_joined]
    rw [find?_or (by decide), ranked_eq]
    rfl
  · rw [classify, classify, withoutMarks_withoutMarks]

end Estate.PropertyType
