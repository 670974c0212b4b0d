import Estate.Proofs.Script.Scanning

/-!
The search for an assignment in any text. It passes over what is assigned to longer names, so it
finds the first literal that is assigned to the name itself; and what it finds is always the literal
of such an assignment.
-/

namespace Estate.Script

open Json (Value)

/-- A literal is assigned to the name, and before that only to longer names that end in it. -/
inductive FirstAssigned (name : List Char) (v : Value) : List Char → Prop where
  | mk {before equals text rest : List Char} (hbefore : runsInto before.getLast? = false)
    (hlonger : ∀ front equals literal, before = front ++ (name ++ (equals ++ literal)) →
      IsEquals equals → Opens literal → runsInto front.getLast?)
    (hequals : IsEquals equals) (hread : Value.ofText? (.ofList text) = some v)
    (hcompound : IsCompound v) :
    FirstAssigned name v (before ++ (name ++ (equals ++ (text ++ rest))))

/-- A literal of the value is assigned to the name, which is not the end of a longer one. -/
inductive Assigned (name : List Char) (v : Value) : List Char → Prop where
  | mk {before equals literal rest : List Char} (hbefore : runsInto before.getLast? = false)
    (hequals : IsEquals equals) (hopen : Opens literal)
    (hbalanced : balanced? (literal ++ rest) = some literal)
    (hvalue : literalValue? literal = some v) :
    Assigned name v (before ++ (name ++ (equals ++ (literal ++ rest))))

section

variable {name : List Char} {v : Value}

/-! ### Names and assignments -/

lemma IsEquals.not_letter {equals : List Char} (h : IsEquals equals) :
    ∀ c ∈ equals, isNameLetter c = false := by
  obtain ⟨hg, hg'⟩ := h
  intro c hc
  simp only [List.mem_append, List.mem_cons] at hc
  rcases hc with hc | rfl | hc
  · exact not_isNameLetter_of_isBlank (hg c hc)
  · decide
  · exact not_isNameLetter_of_isBlank (hg' c hc)

lemma IsEquals.ne_nil {equals : List Char} (h : IsEquals equals) : equals ≠ [] := by
  obtain ⟨-, -⟩ := h
  simp

lemma Opens.length_pos {cs : List Char} (h : Opens cs) : 0 < cs.length := by
  obtain ⟨c, hc, -⟩ := h
  exact List.length_pos_iff.2 fun hnil => by simp [hnil] at hc

/-- What has no letter of a name stands before a name or behind it. -/
lemma exists_rest_of_not_letter {s t rest more : List Char} (hne : name ≠ [])
    (hletter : ∀ c ∈ name, isNameLetter c) (ht : ∀ c ∈ t, isNameLetter c = false)
    (h : s ++ (name ++ more) = t ++ rest) :
    ∃ behind, s = t ++ behind ∧ rest = behind ++ (name ++ more) := by
  obtain ⟨c, w, rfl⟩ := List.exists_cons_of_ne_nil hne
  have hc := hletter c (by simp)
  rcases List.append_eq_append_iff.1 h with ⟨a, rfl, hmore⟩ | ⟨a, rfl, hrest⟩
  · cases a with
    | nil => exact ⟨[], by simp, hmore.symm⟩
    | cons d a =>
      obtain rfl : c = d := (List.cons.inj hmore).1
      rw [ht c (by simp)] at hc
      cases hc
  · exact ⟨a, rfl, hrest⟩

/-- An assignment that starts before a name ends before it. -/
lemma exists_literal_before {s more equals literal : List Char} (hne : name ≠ [])
    (hletter : ∀ c ∈ name, isNameLetter c) (hs : s ≠ []) (hequals : IsEquals equals)
    (hopen : Opens literal)
    (h : s ++ (name ++ more) = name ++ (equals ++ literal)) :
    ∃ front, s = name ++ (equals ++ front) ∧ Opens front := by
  obtain ⟨c, hc, hbracket⟩ := hopen
  obtain ⟨tail, rfl⟩ := List.head?_eq_some_iff.1 hc
  rcases List.append_eq_append_iff.1 h with ⟨a, hshorter, hmore⟩ | ⟨a, rfl, hbehind⟩
  · -- The name would start inside of itself, and go on where the equals sign stands.
    have hpos := List.length_pos_iff.2 hs
    have hlength := congrArg List.length hshorter
    rw [List.length_append] at hlength
    rcases List.append_eq_append_iff.1 hmore with ⟨b, hb, -⟩ | ⟨b, hb, hrest⟩
    · have hblength := congrArg List.length hb
      rw [List.length_append] at hblength
      omega
    · have hblength := congrArg List.length hb
      rw [List.length_append] at hblength
      obtain ⟨d, b, rfl⟩ := List.exists_cons_of_length_pos (l := b) (by omega)
      obtain ⟨e, equals, rfl⟩ := List.exists_cons_of_ne_nil hequals.ne_nil
      obtain rfl : e = d := (List.cons.inj hrest).1
      have he := hletter e (by simp [hb])
      rw [hequals.not_letter e (by simp)] at he
      cases he
  · have hnone : ∀ d ∈ equals ++ [c], isNameLetter d = false := by
      intro d hd
      rcases List.mem_append.1 hd with hd | hd
      · exact hequals.not_letter d hd
      · obtain rfl := List.mem_singleton.1 hd
        rcases hbracket with rfl | rfl <;> decide
    have hsplit : a ++ (name ++ more) = (equals ++ [c]) ++ tail := by simp [← hbehind]
    obtain ⟨front, rfl, -⟩ := exists_rest_of_not_letter hne hletter hnone hsplit
    exact ⟨c :: front, by simp, c, rfl, hbracket⟩

/-! ### The search -/

/-- The search goes on behind what is assigned to a longer name, as it does behind all else. -/
lemma scanFrom_before (hne : name ≠ []) (hletter : ∀ c ∈ name, isNameLetter c) (front : List Char)
    {before : List Char}
    (hlonger : ∀ s equals literal, front ++ before = s ++ (name ++ (equals ++ literal)) →
      IsEquals equals → Opens literal → runsInto s.getLast?)
    {skip : Nat} (hskip : skip ≤ before.length) (more : List Char) :
    scanFrom name front.getLast? skip (before ++ (name ++ more)) =
      scanFrom name (front ++ before).getLast? 0 (name ++ more) := by
  induction before generalizing front skip with
  | nil =>
    obtain rfl : skip = 0 := Nat.le_zero.1 hskip
    rw [List.append_nil, List.nil_append]
  | cons c before ih =>
    have hnext {skip : Nat} (hskip : skip ≤ before.length) :
        scanFrom name (some c) skip (before ++ (name ++ more)) =
          scanFrom name (front ++ c :: before).getLast? 0 (name ++ more) := by
      have hsplit : front ++ c :: before = front ++ [c] ++ before := by simp
      have hnext := ih (front ++ [c]) (by rwa [← hsplit]) hskip
      rwa [List.getLast?_concat, ← hsplit] at hnext
    rw [List.cons_append]
    cases skip with
    | succ skip => exact hnext (Nat.le_of_succ_le_succ hskip)
    | zero =>
      cases hassigned : assignment? name (c :: (before ++ (name ++ more))) with
      | none =>
        rw [scanFrom_none hassigned]
        exact hnext (Nat.zero_le _)
      | some size =>
        obtain ⟨equals, literal, hequals, hopen, hsplit, rfl⟩ := assignment?_eq_some.1 hassigned
        obtain ⟨start, hstart, hstarts⟩ :=
          exists_literal_before hne hletter (List.cons_ne_nil c before) hequals hopen hsplit
        have hruns : runsInto front.getLast? :=
          hlonger front equals start (by rw [hstart]) hequals hstarts
        have hsize : name.length + equals.length ≤ before.length := by
          have hlength := congrArg List.length hstart
          have hpos := hstarts.length_pos
          simp only [List.length_cons, List.length_append] at hlength
          omega
        rw [scanFrom_some hassigned, if_pos hruns, Option.none_or, hnext hsize]

lemma Opens.of_prefix {cs literal : List Char} (h : Opens cs) (hne : literal ≠ [])
    (hstart : literal <+: cs) : Opens literal := by
  obtain ⟨rest, rfl⟩ := hstart
  obtain ⟨c, literal, rfl⟩ := List.exists_cons_of_ne_nil hne
  exact h

/-- What the search finds is assigned to the name. -/
lemma assigned_of_scanFrom (front : List Char) {cs : List Char} {skip : Nat}
    (h : scanFrom name front.getLast? skip cs = some v) : Assigned name v (front ++ cs) := by
  induction cs generalizing front skip with
  | nil => cases h
  | cons c cs ih =>
    have hnext {skip : Nat} (h : scanFrom name (some c) skip cs = some v) :
        Assigned name v (front ++ c :: cs) := by
      have hassigned := ih (front ++ [c]) (by rwa [List.getLast?_concat])
      rwa [List.append_assoc] at hassigned
    cases skip with
    | succ skip => exact hnext h
    | zero =>
      cases hassigned : assignment? name (c :: cs) with
      | none =>
        rw [scanFrom_none hassigned] at h
        exact hnext h
      | some size =>
        rw [scanFrom_some hassigned] at h
        rcases Option.or_eq_some_iff.1 h with hfound | ⟨-, h⟩
        · obtain ⟨equals, start, hequals, hopen, hsplit, rfl⟩ := assignment?_eq_some.1 hassigned
          split at hfound
          · cases hfound
          · next hruns =>
            obtain ⟨literal, hliteral, hvalue⟩ := Option.bind_eq_some_iff.1 hfound
            have hdrop : (c :: cs).drop (name.length + equals.length) = start := by
              rw [hsplit, ← List.append_assoc, List.drop_left' List.length_append]
            rw [hdrop] at hliteral
            obtain ⟨hne, hstart⟩ := isPrefix_of_balancedFrom hliteral
            have hopens := hopen.of_prefix hne hstart
            obtain ⟨rest, rfl⟩ := hstart
            rw [hsplit]
            exact .mk (by simpa using hruns) hequals hopens hliteral hvalue
        · exact hnext h

end

/-- Where else the name stands in a text is found by going through the text. -/
lemma runsInto_of_forall {name before : List Char}
    (h : ∀ n ≤ before.length, (Text.after? name (before.drop n)).isSome →
      runsInto (before.take n).getLast?) {front behind : List Char}
    (hsplit : before = front ++ (name ++ behind)) : runsInto front.getLast? := by
  subst hsplit
  have hfront := h front.length (by simp)
  rw [List.drop_left, List.take_left, Text.after?_append] at hfront
  exact hfront rfl

/-- So many lists in each other, as a text. -/
def brackets (n : Nat) : List Char := List.replicate n '[' ++ List.replicate n ']'

lemma literalValue?_deep : literalValue? (brackets 128) = none := by
  rw [literalValue?, Value.ofText?, Value.ofText?, Json.Term.ofText?, Json.Term.ofText?,
    String.toList_ofList, String.toList_ofList]
  exact Option.isNone_iff_eq_none.1 (by decide +kernel)

lemma scan?_deep : scan? (.ofList ("x = ".toList ++ brackets 128)) "x" = none := by
  have htext : "x = ".toList ++ brackets 128 = 'x' :: (" = ".toList ++ brackets 128) := rfl
  have hassigned : assignment? ['x'] ('x' :: (" = ".toList ++ brackets 128)) = some 4 := by
    decide +kernel
  have hdrop : ('x' :: (" = ".toList ++ brackets 128)).drop 4 = brackets 128 := rfl
  have hbalanced : balanced? (brackets 128) = some (brackets 128) := by decide +kernel
  rw [scan?, String.toList_ofList, String.toList_ofList, htext, scanFrom_some hassigned, hdrop,
    hbalanced, Option.bind_some, literalValue?_deep]
  exact Option.isNone_iff_eq_none.1 (by decide +kernel)

end Estate.Script
