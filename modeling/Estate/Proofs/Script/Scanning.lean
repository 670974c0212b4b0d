import Estate.Proofs.Lenient.Grammar
import Estate.Proofs.Script.Assignments
import Estate.Proofs.Script.Brackets

/-!
The search for an assignment in a script of assignments. It takes the first one: nothing before the
name is taken for an assignment, and the literal ends where its first bracket is closed.
-/

namespace Estate.Script

open Json (Value Blanks)

/-- Without the blanks around it a literal is found by its brackets, and has the same value. -/
lemma exists_core {text : List Char} {w : Value} (hread : Value.ofText? (.ofList text) = some w)
    (hcompound : IsCompound w) :
    ∃ g core g', text = g ++ (core ++ g') ∧ Blanks g ∧ Bracketed core ∧
      literalValue? core = some w := by
  obtain ⟨v, ws, -, hws, hs, hvalue⟩ := Json.words_of_ofText? hread
  rw [String.toList_ofList] at hs
  have hterm : (Json.Term.ofValue v).IsCompound := by
    have hv := isCompound_of_value? hcompound hvalue
    cases v <;> trivial
  rw [← Json.tokens_ofValue] at hws
  obtain ⟨g, core, g', rfl, hg, -, hcore, hspaced⟩ := exists_bracketed hterm hws hs
  rw [Json.tokens_ofValue] at hws
  have hread : Json.Term.ofText? (.ofList core) = some (.ofValue v) :=
    Json.Writes.ofText? ⟨_, hws, Json.ofTokens?_tokens v⟩ (by rwa [String.toList_ofList])
  refine ⟨g, core, g', rfl, hg, hcore, ?_⟩
  rw [literalValue?, Value.ofText?, hread, Option.bind_some, hvalue, Option.some_or]

/-! ### The search -/

/-- A character that scripts allow in names, or that the search takes for part of one. -/
def isNameLetter (c : Char) : Bool := isNamePart c || runsInto (some c)

lemma not_isNameLetter_of_isBlank {c : Char} (h : Text.isBlank c) : isNameLetter c = false :=
  Text.forall_blank (p := fun c => isNameLetter c = false) (by decide +kernel) h

lemma not_isBlank_of_isNamePart {c : Char} (h : isNamePart c) : Text.isBlank c = false := by
  rw [← Bool.not_eq_true]
  intro hblank
  have hletter := not_isNameLetter_of_isBlank hblank
  simp [isNameLetter, h] at hletter

lemma IsName.part {name : List Char} (h : IsName name) : ∀ c ∈ name, isNamePart c := by
  obtain ⟨hc, hw, -⟩ := h
  intro d hd
  rcases List.mem_cons.1 hd with rfl | hd
  · simp [isNamePart, hc]
  · exact hw d hd

/-- An equals sign with blanks around it. -/
inductive IsEquals : List Char → Prop where
  | mk {g g' : List Char} (hg : ∀ c ∈ g, Text.isBlank c) (hg' : ∀ c ∈ g', Text.isBlank c) :
    IsEquals (g ++ '=' :: g')

/-- The text starts with an opening bracket. -/
def Opens (cs : List Char) : Prop := ∃ c ∈ cs.head?, c = '[' ∨ c = '\x7b'

lemma IsName.ne_nil {name : List Char} (h : IsName name) : name ≠ [] := by
  obtain ⟨-, -, -⟩ := h
  simp

section

variable {name g rest : List Char} {w : Value}

lemma Opens.not_isBlank {cs : List Char} (h : Opens cs) :
    ∀ c ∈ cs.head?, Text.isBlank c = false := by
  obtain ⟨c, hc, hopen⟩ := h
  intro d hd
  obtain rfl : c = d := Option.mem_unique hc hd
  rcases hopen with rfl | rfl <;> decide

lemma opens_iff {cs : List Char} :
    Opens cs ↔ (cs.head? == some '\x7b' || cs.head? == some '[') = true := by
  cases cs with
  | nil => simp [Opens]
  | cons c cs => simp [Opens, or_comm]

/-- A name is assigned to where an equals sign and an opening bracket follow it. -/
lemma assignment?_eq_some {cs : List Char} {size : Nat} :
    assignment? name cs = some size ↔ ∃ equals literal, IsEquals equals ∧ Opens literal ∧
      cs = name ++ (equals ++ literal) ∧ size = name.length + equals.length := by
  constructor
  · intro hassigned
    obtain ⟨behind, hbehind, h⟩ := Option.bind_eq_some_iff.1 hassigned
    obtain rfl := Text.after?_eq_some.1 hbehind
    simp only [Text.drop_takeWhile] at h
    split at h
    · next rest hequals =>
      split at h
      · next hopen =>
        refine ⟨behind.takeWhile Text.isBlank ++ '=' :: rest.takeWhile Text.isBlank,
          rest.dropWhile Text.isBlank, .mk (fun _ => List.mem_takeWhile_imp)
          (fun _ => List.mem_takeWhile_imp), opens_iff.2 hopen, ?_, ?_⟩
        · rw [List.append_assoc, List.cons_append, List.takeWhile_append_dropWhile, ← hequals,
            List.takeWhile_append_dropWhile]
        · cases h
          rw [List.length_append, List.length_cons]
          omega
      · cases h
    · cases h
  · rintro ⟨_, literal, ⟨hg, hg'⟩, hopen, rfl, rfl⟩
    next g g' =>
    have hblanks : (g ++ '=' :: (g' ++ literal)).takeWhile Text.isBlank = g := by
      refine Text.takeWhile_append_of_all hg fun c hc => ?_
      cases hc
      decide
    have hblanks' : (g' ++ literal).takeWhile Text.isBlank = g' :=
      Text.takeWhile_append_of_all hg' hopen.not_isBlank
    rw [assignment?, Text.after?_append, Option.bind_some, List.append_assoc, List.cons_append,
      hblanks]
    dsimp only
    rw [List.drop_left]
    simp only [hblanks', List.drop_left]
    rw [if_pos (opens_iff.1 hopen), List.length_append, List.length_cons]
    congr 1
    omega

lemma not_isNamePart_of_isGap {c : Char} (h : Json.isGap c) : isNamePart c = false :=
  (not_part_of_break (isBreak_of_isGap h)).1

/-- A name at the start of a word with a blank behind it ends in the word. -/
lemma exists_rest_of_word {u behind : List Char} (hname : IsName name) (hu : ∀ c ∈ u, isNamePart c)
    (hg : Blanks g) (hne : g ≠ []) (h : Text.after? name (u ++ (g ++ rest)) = some behind) :
    ∃ y, (∀ c ∈ y, isNamePart c) ∧ behind = y ++ (g ++ rest) := by
  rcases List.append_eq_append_iff.1 (Text.after?_eq_some.1 h) with
    ⟨y, hsplit, hbehind⟩ | ⟨y, rfl, rfl⟩
  · cases y with
    | nil => exact ⟨[], by simp, hbehind.symm⟩
    | cons c y =>
      -- The name would go on with the first blank.
      obtain ⟨b, g, rfl⟩ := List.exists_cons_of_ne_nil hne
      obtain rfl : b = c := (List.cons.inj hbehind).1
      have hpart := hname.part b (by simp [hsplit])
      rw [not_isNamePart_of_isGap (hg b (by simp))] at hpart
      cases hpart
  · exact ⟨y, fun c hc => hu c (by simp [hc]), rfl⟩

/-- Words with blanks and another word behind them are not assigned to. -/
lemma assignment?_word {u : List Char} (hname : IsName name) (hu : ∀ c ∈ u, isNamePart c)
    (hg : Blanks g) (hne : g ≠ []) (hrest : ∀ c ∈ rest.head?, isNamePart c) :
    assignment? name (u ++ (g ++ rest)) = none := by
  refine Option.eq_none_iff_forall_ne_some.2 fun size hsize => ?_
  obtain ⟨_, literal, ⟨hg₁, -⟩, -, hsplit, -⟩ := assignment?_eq_some.1 hsize
  next g₁ g₂ =>
  obtain ⟨y, hy, hbehind⟩ := exists_rest_of_word hname hu hg hne (Text.after?_eq_some.2 hsplit)
  have hequals : (g₁ ++ '=' :: g₂ ++ literal).dropWhile Text.isBlank = '=' :: (g₂ ++ literal) := by
    rw [List.append_assoc, List.cons_append]
    refine Text.dropWhile_append_of_all hg₁ fun c hc => ?_
    cases hc
    decide
  -- What stands behind the name would have to be the equals sign, and is part of a word.
  have hpart : ∀ c ∈ ((y ++ (g ++ rest)).dropWhile Text.isBlank).head?, isNamePart c := by
    cases y with
    | nil =>
      rw [List.nil_append, Text.dropWhile_append_of_all
        (fun c hc => Lenient.isBlank_of_isGap (hg c hc))
        fun c hc => not_isBlank_of_isNamePart (hrest c hc)]
      exact hrest
    | cons c y =>
      have hc : isNamePart c := hy c (by simp)
      rw [List.cons_append, List.dropWhile_cons_of_neg (by simp [not_isBlank_of_isNamePart hc])]
      intro d hd
      cases hd
      exact hc
  rw [← hbehind, hequals] at hpart
  exact absurd (hpart '=' rfl) (by decide)

lemma IsEquals.append {equals : List Char} (h : IsEquals equals) (hg : Blanks g) :
    IsEquals (equals ++ g) := by
  obtain ⟨hg₁, hg₂⟩ := h
  rw [List.append_assoc, List.cons_append]
  refine .mk hg₁ fun c hc => ?_
  rcases List.mem_append.1 hc with hc | hc
  · exact hg₂ c hc
  · exact Lenient.isBlank_of_isGap (hg c hc)

/-- At an assignment the search finds the literal. -/
lemma assignment?_target {equals text : List Char} (name : List Char) (hequals : IsEquals equals)
    (hread : Value.ofText? (.ofList text) = some w) (hcompound : IsCompound w) (rest : List Char) :
    ∃ size core behind, assignment? name (name ++ (equals ++ (text ++ rest))) = some size ∧
      (name ++ (equals ++ (text ++ rest))).drop size = core ++ behind ∧
      balanced? (core ++ behind) = some core ∧ literalValue? core = some w := by
  obtain ⟨g, core, behind, rfl, hg, hcore, hvalue⟩ := exists_core hread hcompound
  obtain ⟨c, cs, hopens, hc⟩ := hcore.opens
  have hopen : Opens (core ++ (behind ++ rest)) := ⟨c, by rw [hopens]; rfl, hc⟩
  have hsplit : name ++ (equals ++ (g ++ (core ++ behind) ++ rest)) =
      name ++ ((equals ++ g) ++ (core ++ (behind ++ rest))) := by simp
  refine ⟨name.length + (equals ++ g).length, core, behind ++ rest, ?_, ?_, hcore.cut _, hvalue⟩
  · exact assignment?_eq_some.2 ⟨_, _, hequals.append hg, hopen, hsplit, rfl⟩
  · rw [hsplit, ← List.append_assoc, List.drop_left' List.length_append]

lemma scanFrom_none {before : Option Char} {c : Char} {cs : List Char}
    (h : assignment? name (c :: cs) = none) :
    scanFrom name before 0 (c :: cs) = scanFrom name (some c) 0 cs := by
  rw [scanFrom, h]

lemma scanFrom_some {before : Option Char} {c : Char} {cs : List Char} {size : Nat}
    (h : assignment? name (c :: cs) = some size) :
    scanFrom name before 0 (c :: cs) =
      (if runsInto before then none else (balanced? ((c :: cs).drop size)).bind literalValue?).or
        (scanFrom name (some c) size cs) := by
  rw [scanFrom, h]

/-- Blanks are no part of a name, so a name may start behind them. -/
lemma scanFrom_blanks (hname : IsName name) (hg : Blanks g) (before : Option Char)
    (hbefore : runsInto before = true → g ≠ []) (rest : List Char) :
    ∃ before', runsInto before' = false ∧
      scanFrom name before 0 (g ++ rest) = scanFrom name before' 0 rest := by
  induction g generalizing before with
  | nil =>
    refine ⟨before, ?_, rfl⟩
    rw [← Bool.not_eq_true]
    exact fun h => hbefore h rfl
  | cons c g ih =>
    have hc : Json.isGap c := hg c (by simp)
    have hrunsInto : runsInto (some c) = false := by
      have hbreak := forall_break (p := fun c => !runsInto (some c)) (by decide)
        (isBreak_of_isGap hc)
      rwa [Bool.not_eq_true'] at hbreak
    have hother : assignment? name (c :: (g ++ rest)) = none := by
      have hafter : Text.after? name (c :: (g ++ rest)) = none := by
        rw [← Option.not_isSome_iff_eq_none]
        intro hsome
        obtain ⟨behind, hbehind⟩ := Option.isSome_iff_exists.1 hsome
        have hsplit := Text.after?_eq_some.1 hbehind
        obtain ⟨hstart, -, -⟩ := hname
        obtain rfl := (List.cons.inj hsplit).1
        have hpart := not_isNamePart_of_isGap hc
        simp [isNamePart, hstart] at hpart
      rw [assignment?, hafter]
      rfl
    obtain ⟨before', hbefore', hscan⟩ := ih (fun d hd => hg d (by simp [hd])) (some c)
      (by simp [hrunsInto])
    refine ⟨before', hbefore', ?_⟩
    rw [List.cons_append, scanFrom_none hother, hscan]

/-- The keyword of a declaration is not taken for an assignment. -/
lemma scanFrom_keyword (hname : IsName name) (hg : Blanks g) (hne : g ≠ [])
    (hrest : ∀ c ∈ rest.head?, isNamePart c) (before : Option Char) :
    scanFrom name before 0 ("var".toList ++ (g ++ rest)) =
      scanFrom name (some 'r') 0 (g ++ rest) := by
  have hother {u : List Char} (hu : u.all isNamePart = true) :
      assignment? name (u ++ (g ++ rest)) = none :=
    assignment?_word hname (List.all_eq_true.1 hu) hg hne hrest
  calc scanFrom name before 0 ('v' :: 'a' :: 'r' :: (g ++ rest))
      = scanFrom name (some 'v') 0 ('a' :: 'r' :: (g ++ rest)) :=
        scanFrom_none (hother (u := ['v', 'a', 'r']) (by decide))
    _ = scanFrom name (some 'a') 0 ('r' :: (g ++ rest)) :=
        scanFrom_none (hother (u := ['a', 'r']) (by decide))
    _ = scanFrom name (some 'r') 0 (g ++ rest) := scanFrom_none (hother (u := ['r']) (by decide))

/-- The search ends where a literal is assigned to the name, if it is not the end of a longer
one. -/
lemma scanFrom_target {equals text : List Char} (hne : name ≠ []) (hequals : IsEquals equals)
    (hread : Value.ofText? (.ofList text) = some w) (hcompound : IsCompound w)
    {before : Option Char} (hbefore : runsInto before = false) (rest : List Char) :
    scanFrom name before 0 (name ++ (equals ++ (text ++ rest))) = some w := by
  obtain ⟨size, core, behind, hassigned, hdrop, hbalanced, hvalue⟩ :=
    assignment?_target name hequals hread hcompound rest
  obtain ⟨c, name, rfl⟩ := List.exists_cons_of_ne_nil hne
  rw [List.cons_append] at hassigned hdrop ⊢
  rw [scanFrom_some hassigned, hbefore, if_neg Bool.false_ne_true, hdrop, hbalanced,
    Option.bind_some, hvalue, Option.some_or]

lemma scanFrom_assignment {text : List Char} (hname : IsName name) (h : IsAssignment name w text)
    {before : Option Char} (hbefore : runsInto before = false) (rest : List Char) :
    scanFrom name before 0 (text ++ rest) = some w := by
  cases h with
  | @mk g text hg hliteral =>
    have hequals : IsEquals (g ++ ['=']) :=
      .mk (fun c hc => Lenient.isBlank_of_isGap (hg c hc)) fun c hc => by cases hc
    have htext : name ++ (g ++ '=' :: (text ++ [';'])) ++ rest =
        name ++ ((g ++ ['=']) ++ (text ++ ';' :: rest)) := by simp
    rw [htext, scanFrom_target hname.ne_nil hequals hliteral.read hliteral.compound hbefore]

lemma scanFrom_statement {text : List Char} (hname : IsName name) (h : IsStatement name w text)
    (rest : List Char) : scanFrom name none 0 (text ++ rest) = some w := by
  have hhead {text : List Char} (h : IsAssignment name w text) :
      ∀ c ∈ (text ++ rest).head?, isNamePart c := by
    obtain ⟨-, -⟩ := h
    obtain ⟨hc, -, -⟩ := hname
    intro d hd
    cases hd
    simp [isNamePart, hc]
  cases h with
  | @assigned g text hg h =>
    obtain ⟨before, hbefore, hscan⟩ := scanFrom_blanks hname hg none (fun h => by cases h)
      (text ++ rest)
    rw [List.append_assoc, hscan, scanFrom_assignment hname h hbefore]
  | @declared g g' text hg hg' hne h =>
    obtain ⟨before, -, hscan⟩ := scanFrom_blanks hname hg none (fun h => by cases h)
      ("var".toList ++ (g' ++ (text ++ rest)))
    obtain ⟨before', hbefore', hscan'⟩ := scanFrom_blanks hname hg' (some 'r') (fun _ => hne)
      (text ++ rest)
    rw [List.append_assoc, List.append_assoc, List.append_assoc, hscan,
      scanFrom_keyword hname hg' hne (hhead h), hscan', scanFrom_assignment hname h hbefore']

end

/-- The search finds the value of the first statement. -/
theorem scan?_script {ws : List Value} {name : List Char} {source : String} (hname : IsName name)
    (h : IsScript name ws source.toList) : scan? source (.ofList name) = ws.head? := by
  rw [scan?, String.toList_ofList]
  generalize source.toList = text at h
  cases h with
  | last hg =>
    obtain ⟨before, -, hscan⟩ := scanFrom_blanks hname hg none (fun h => by cases h) []
    rw [List.append_nil] at hscan
    rw [hscan]
    rfl
  | more hs _ => exact scanFrom_statement hname hs _

end Estate.Script
