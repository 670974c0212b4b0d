import Estate.Proofs.Json.Meaning
import Estate.Proofs.Script.Agreement

/-!
What running a script leaves in its variables, beside what reading it gives for them.

The scripts are rows of lines, each of which declares a variable or assigns to it, with a literal
for the value. The reader takes every sign for one that puts the literal in place of the former
value; a run takes the former value into account, as the sign says.
-/

namespace Estate.Script

open Json (Value)

/-! ### Lines -/

/-- A literal. Nothing stands for a text with half a surrogate pair, or for a number too great. -/
inductive Literal where
  | text (s : Option String)
  | number (x : Option Binary64)
deriving DecidableEq

def Literal.expression : Literal → Expression
  | .text s => .text s
  | .number x => .number x

/-- A variable is declared with a value, or assigned one by a sign. -/
structure Line where
  sign : Option String
  name : String
  literal : Literal
deriving DecidableEq

namespace Line

def statement (line : Line) : Statement :=
  match line.sign with
  | none => .declare [(some line.name, some line.literal.expression)]
  | some sign => .expression (.assign sign (.name line.name) line.literal.expression)

/-- The literal takes the place of the former value. -/
def IsPlain (line : Line) : Prop := line.sign.getD "=" = "="

instance (line : Line) : Decidable line.IsPlain :=
  inferInstanceAs (Decidable (line.sign.getD "=" = "="))

end Line

def Expression.literal? : Expression → Option Literal
  | .text s => some (.text s)
  | .number x => some (.number x)
  | _ => none

def Statement.line? : Statement → Option Line
  | .declare [(some name, some e)] => e.literal?.map (⟨none, name, ·⟩)
  | .expression (.assign sign (.name name) e) => e.literal?.map (⟨some sign, name, ·⟩)
  | _ => none

/-- The lines of a script that consists of lines. -/
def linesOf? (source : String) : Option (List Line) :=
  (Program.ofText? source).bind (·.mapM Statement.line?)

lemma Expression.literal?_eq_some {e : Expression} {literal : Literal}
    (h : e.literal? = some literal) : e = literal.expression := by
  cases e <;> cases h <;> rfl

lemma Statement.line?_eq_some {s : Statement} {line : Line} (h : s.line? = some line) :
    s = line.statement := by
  unfold line? at h
  split at h
  · obtain ⟨literal, hliteral, rfl⟩ := Option.map_eq_some_iff.1 h
    rw [Expression.literal?_eq_some hliteral]
    rfl
  · obtain ⟨literal, hliteral, rfl⟩ := Option.map_eq_some_iff.1 h
    rw [Expression.literal?_eq_some hliteral]
    rfl
  · cases h

/-! ### Reading -/

/-- What a line is read as: a value for its variable. -/
def Line.entry? (line : Line) : Option (String × Value) :=
  line.literal.expression.value?.map (line.name, ·)

lemma Line.values_statement (line : Line) : line.statement.values = line.entry?.toList := by
  obtain ⟨_ | sign, name, literal⟩ := line <;> cases h : literal.expression.value? <;>
    simp [statement, entry?, Statement.values, h, targetNames]

lemma valuesOf_lines {source : String} {lines : List Line} (h : linesOf? source = some lines) :
    valuesOf source = lines.filterMap Line.entry? := by
  obtain ⟨program, hprogram, hlines⟩ := Option.bind_eq_some_iff.1 h
  have hread : ∀ {program : Program} {lines : List Line},
      List.Forall₂ (fun s line => Statement.line? s = some line) program lines →
        program.flatMap Statement.values = lines.filterMap Line.entry? := by
    intro program lines heach
    induction heach with
    | nil => rfl
    | @cons s line _ _ hs _ ih =>
      rw [List.flatMap_cons, ih, Statement.line?_eq_some hs, line.values_statement,
        List.filterMap_cons]
      cases line.entry? <;> rfl
  rw [valuesOf, hprogram]
  exact hread (Json.mapM_eq_some.1 hlines)

/-- What is put in for other keys does not matter. -/
lemma get?_ofList_append {pairs more : List (String × Value)} {name : String}
    (h : ∀ p ∈ more, p.1 ≠ name) :
    Keyed.get? (Keyed.ofList (pairs ++ more)) name = Keyed.get? (Keyed.ofList pairs) name := by
  rw [Keyed.ofList, List.foldl_append, ← Keyed.ofList]
  generalize Keyed.ofList pairs = entries
  induction more generalizing entries with
  | nil => rfl
  | cons p more ih =>
    rw [List.foldl_cons, ih (fun q hq => h q (by simp [hq])), Keyed.get?_insert,
      if_neg (h p (by simp)).symm]

/-- Of the values put in for a key the last is found. -/
lemma get?_ofList_concat {pairs more : List (String × Value)} {name : String} {v : Value}
    (h : ∀ p ∈ more, p.1 ≠ name) :
    Keyed.get? (Keyed.ofList (pairs ++ (name, v) :: more)) name = some v := by
  rw [List.append_cons, get?_ofList_append h, Keyed.ofList, List.foldl_append, List.foldl_cons,
    List.foldl_nil, Keyed.get?_insert, if_pos rfl]

/-- Lines for other variables give no value for a variable. -/
lemma ne_of_entries {lines : List Line} {name : String}
    (h : ∀ line ∈ lines, line.name ≠ name) : ∀ p ∈ lines.filterMap Line.entry?, p.1 ≠ name := by
  intro p hp
  obtain ⟨line, hline, hentry⟩ := List.mem_filterMap.1 hp
  obtain ⟨v, -, rfl⟩ := Option.map_eq_some_iff.1 hentry
  exact h line hline

/-- The last line that gives a value for a variable decides what is read for it. -/
lemma assigned?_last {source name : String} {before after : List Line} {line : Line} {v : Value}
    (h : linesOf? source = some (before ++ line :: after)) (hline : line.entry? = some (name, v))
    (hafter : ∀ other ∈ after, other.name ≠ name) : assigned? source name = some v := by
  rw [assigned?, valuesOf_lines h, List.filterMap_append, List.filterMap_cons, hline]
  exact get?_ofList_concat (ne_of_entries hafter)

lemma assigned?_other {source name : String} {lines : List Line}
    (h : linesOf? source = some lines) (hother : ∀ line ∈ lines, line.name ≠ name) :
    assigned? source name = none := by
  have hnone : Keyed.get? (Keyed.ofList ([] ++ lines.filterMap Line.entry?)) name = none :=
    get?_ofList_append (ne_of_entries hother)
  rw [assigned?, valuesOf_lines h]
  exact hnone

/-! ### Running -/

/-- What a language makes of literals, and of the former value of a variable and a literal between
which a sign stands. Some names stand for constants. -/
structure Language (α : Type) where
  undefined : α
  ofLiteral : Literal → α
  combine : String → α → α → α
  constants : List String

/-- The variables there are, with their values. -/
abbrev Memory (α : Type) := String → Option α

namespace Language

variable {α : Type} (l : Language α)

/-- What is assigned to a constant is lost. -/
def put (memory : Memory α) (name : String) (a : α) : Memory α :=
  fun other => if other = name ∧ name ∉ l.constants then some a else memory other

/-- The value of the variable of a line behind the line. A former value cannot be taken into account
where there is no variable. -/
def result? (memory : Memory α) (line : Line) : Option α :=
  if line.IsPlain then some (l.ofLiteral line.literal)
  else (memory line.name).map fun old =>
    l.combine (line.sign.getD "=") old (l.ofLiteral line.literal)

def step? (memory : Memory α) (line : Line) : Option (Memory α) :=
  (l.result? memory line).map (l.put memory line.name)

/-- Before the first line all variables that are declared exist already. -/
def declared (globals : Memory α) (lines : List Line) : Memory α := fun name =>
  (globals name).or
    (if lines.any fun line => line.sign.isNone && line.name == name then some l.undefined else none)

/-- The memory that a run of all lines leaves, if nothing stops it. -/
def run? (globals : Memory α) (lines : List Line) : Option (Memory α) :=
  lines.foldlM l.step? (l.declared globals lines)

variable {l} {memory memory' : Memory α} {line : Line} {name : String}

lemma step?_other (h : l.step? memory line = some memory') (hne : name ≠ line.name) :
    memory' name = memory name := by
  obtain ⟨a, -, rfl⟩ := Option.map_eq_some_iff.1 h
  rw [put, if_neg fun hname => hne hname.1]

lemma step?_here (h : l.step? memory line = some memory') (hvariable : line.name ∉ l.constants) :
    ∃ a, l.result? memory line = some a ∧ memory' line.name = some a := by
  obtain ⟨a, ha, rfl⟩ := Option.map_eq_some_iff.1 h
  exact ⟨a, ha, if_pos ⟨rfl, hvariable⟩⟩

/-- Lines for other variables leave a variable alone. -/
lemma foldlM_other {lines : List Line} (h : lines.foldlM l.step? memory = some memory')
    (hother : ∀ line ∈ lines, line.name ≠ name) : memory' name = memory name := by
  induction lines generalizing memory with
  | nil =>
    cases h
    rfl
  | cons line lines ih =>
    rw [List.foldlM_cons] at h
    obtain ⟨next, hstep, hrest⟩ := Option.bind_eq_some_iff.1 h
    rw [ih hrest fun other hmem => hother other (by simp [hmem]),
      step?_other hstep (hother line (by simp)).symm]

/-- The last line for a variable decides its value, together with the value it had before. -/
lemma foldlM_last {before after : List Line}
    (h : (before ++ line :: after).foldlM l.step? memory = some memory')
    (hafter : ∀ other ∈ after, other.name ≠ line.name) (hvariable : line.name ∉ l.constants) :
    ∃ former a, before.foldlM l.step? memory = some former ∧ l.result? former line = some a ∧
      memory' line.name = some a := by
  rw [List.foldlM_append] at h
  obtain ⟨former, hbefore, h⟩ := Option.bind_eq_some_iff.1 h
  rw [List.foldlM_cons] at h
  obtain ⟨next, hstep, hrest⟩ := Option.bind_eq_some_iff.1 h
  obtain ⟨a, hresult, hnext⟩ := step?_here hstep hvariable
  exact ⟨former, a, hbefore, hresult, by rw [foldlM_other hrest hafter, hnext]⟩

end Language

/-! ### Reading and running -/

/-- The value is the one that the literal has, without loss. -/
inductive Literal.Keeps : Literal → Value → Prop where
  | text (s : String) : Keeps (.text (some s)) (.string s)
  | whole {x : Binary64} {n : Int} (hx : x.toInt? = some n) (hlow : Text.minInt64 ≤ n)
    (hhigh : n ≤ Text.maxInt64) : Keeps (.number (some x)) (.ofInt n)
  | fraction {x : Binary64} (hx : x.toInt? = none) : Keeps (.number (some x)) (.number (.float x))
  | large {x : Binary64} {n : Int} (hx : x.toInt? = some n) (hn : Text.maxInt64 + 1 < n) :
    Keeps (.number (some x)) (.number (.float x))

lemma Literal.Keeps.value? {literal : Literal} {v : Value} (h : literal.Keeps v) :
    literal.expression.value? = some v := by
  cases h with
  | text s => rfl
  | @whole x n hx hlow hhigh =>
    have hclamp : Text.clampInt64 n = n := by
      simp only [Text.clampInt64]
      omega
    have hrange : Text.minInt64 ≤ n ∧ n ≤ Text.maxInt64 + 1 := ⟨hlow, by omega⟩
    simp [expression, Expression.value?, numberValue?, hx, hrange, hclamp]
  | fraction hx => simp [expression, Expression.value?, numberValue?, hx]
  | @large x n hx hn =>
    have hrange : ¬ (Text.minInt64 ≤ n ∧ n ≤ Text.maxInt64 + 1) := by omega
    simp [expression, Expression.value?, numberValue?, hx, hrange]

/-- **Reading and running**: of the lines for a variable the last one decides what is read for it,
and its literal is what is read, whatever its sign. That is the value a run leaves if the sign is
the plain one; with another sign it is so only where the sign makes the literal of the former value
and the literal. Nothing is read for other variables. -/
theorem reading_and_running {source : String} {lines : List Line}
    (hread : linesOf? source = some lines) {α : Type} {l : Language α}
    {globals memory : Memory α} (hrun : l.run? globals lines = some memory) :
    (∀ name, (∀ line ∈ lines, line.name ≠ name) → assigned? source name = none) ∧
    ∀ before line after v, lines = before ++ line :: after →
      (∀ other ∈ after, other.name ≠ line.name) → line.name ∉ l.constants →
      line.literal.Keeps v →
      assigned? source line.name = some v ∧
      (line.IsPlain → memory line.name = some (l.ofLiteral line.literal)) ∧
      (¬ line.IsPlain → ∃ former old,
        before.foldlM l.step? (l.declared globals lines) = some former ∧
        former line.name = some old ∧
        (memory line.name = some (l.ofLiteral line.literal) ↔
          l.combine (line.sign.getD "=") old (l.ofLiteral line.literal) =
            l.ofLiteral line.literal)) := by
  refine ⟨fun name hother => assigned?_other hread hother, ?_⟩
  rintro before line after v rfl hafter hvariable hkeeps
  have hentry : line.entry? = some (line.name, v) := by
    rw [Line.entry?, hkeeps.value?, Option.map_some]
  obtain ⟨former, a, hbefore, hresult, hmemory⟩ := Language.foldlM_last hrun hafter hvariable
  refine ⟨assigned?_last hread hentry hafter, fun hplain => ?_, fun hsign => ?_⟩
  · rw [Language.result?, if_pos hplain] at hresult
    rw [hmemory, hresult]
  · rw [Language.result?, if_neg hsign] at hresult
    obtain ⟨old, hold, rfl⟩ := Option.map_eq_some_iff.1 hresult
    refine ⟨former, old, hbefore, hold, ?_⟩
    rw [hmemory, Option.some.injEq]

/-- Sums of whole numbers; nothing stands for any other value. -/
def sums : Language (Option Int) where
  undefined := none
  ofLiteral
    | .number (some x) => x.toInt?
    | _ => none
  combine sign old new := if sign = "+=" then old.bind fun a => new.map (a + ·) else none
  constants := ["undefined", "NaN", "Infinity"]

/-- A variable with a number added to it, and another one. -/
def addedTo : String := "var x = 1; x += 2; y = 3;"

/-- The lines of the script. -/
def addedToLines : List Line :=
  [⟨none, "x", .number (ofNat? 1)⟩, ⟨some "+=", "x", .number (ofNat? 2)⟩,
    ⟨some "=", "y", .number (ofNat? 3)⟩]

/-- A whole number is kept, up to the greatest that doubles tell apart. -/
lemma keeps_ofNat? {n : Nat} (hn : n ≤ 2 ^ 53) : (Literal.number (ofNat? n)).Keeps (.ofInt n) := by
  obtain ⟨x, hx, htoInt⟩ := Binary64.ofFraction?_whole hn
  rw [ofNat?, hx]
  refine .whole htoInt ?_ ?_
  · simp only [Text.minInt64]
    omega
  · simp only [Text.maxInt64]
    omega

theorem reading_and_running_sum :
    linesOf? addedTo = some addedToLines ∧
      ∃ memory, sums.run? (fun _ => none) addedToLines = some memory ∧
        assigned? addedTo "y" = some (.ofInt 3) ∧ memory "y" = some (some 3) ∧
        assigned? addedTo "x" = some (.ofInt 2) ∧ memory "x" ≠ some (some 2) := by
  have hread : linesOf? addedTo = some addedToLines := by decide +kernel
  have hruns : (sums.run? (fun _ => none) addedToLines).isSome := by decide +kernel
  obtain ⟨memory, hrun⟩ := Option.isSome_iff_exists.1 hruns
  obtain ⟨-, hlast⟩ := reading_and_running hread hrun
  obtain ⟨hy, hplain, -⟩ := hlast (addedToLines.take 2) ⟨some "=", "y", .number (ofNat? 3)⟩ []
    (.ofInt 3) rfl (by simp) (by decide) (keeps_ofNat? (by decide))
  obtain ⟨hx, -, hsum⟩ := hlast (addedToLines.take 1) ⟨some "+=", "x", .number (ofNat? 2)⟩
    (addedToLines.drop 2) (.ofInt 2) rfl (by decide) (by decide) (keeps_ofNat? (by decide))
  have htwo : sums.ofLiteral (.number (ofNat? 2)) = some 2 := by decide +kernel
  have hthree : sums.ofLiteral (.number (ofNat? 3)) = some 3 := by decide +kernel
  obtain ⟨former, old, hbefore, hold, hagree⟩ := hsum (by decide)
  have hone : old = some 1 := by
    have h : ((addedToLines.take 1).foldlM sums.step?
        (sums.declared (fun _ => none) addedToLines)).bind (· "x") = some (some 1) := by
      decide +kernel
    rw [hbefore] at h
    exact Option.some.inj (hold.symm.trans h)
  refine ⟨hread, memory, hrun, hy, (hplain rfl).trans (congrArg some hthree), hx, ?_⟩
  intro hmemory
  rw [hone, htwo] at hagree
  exact absurd (hagree.1 hmemory) (by decide)

/-- The text of the value that is read for a variable. -/
def readText? (source name : String) : Option (List Char) :=
  (assigned? source name).map Value.render

/-- What a run adds to a variable is taken for its value. A number too great leaves the former
value, the least number past those of 64 bits is read as the greatest of them, and half a surrogate
pair as nothing. -/
theorem misread :
    (∃ lines memory, linesOf? "var x = 1; x += 2;" = some lines ∧
      sums.run? (fun _ => none) lines = some memory ∧ memory "x" = some (some 3)) ∧
      readText? "var x = 1; x += 2;" "x" = some "2".toList ∧
      readText? "var x = 1; x = 1e999;" "x" = some "1".toList ∧
      readText? "var x = 9223372036854775808;" "x" = some "9223372036854775807".toList ∧
      readText? "var x = \"\\ud800\";" "x" = some "\"\"".toList := by
  have hread : linesOf? "var x = 1; x += 2;" = some (addedToLines.take 2) := by decide +kernel
  have hx : (sums.run? (fun _ => none) (addedToLines.take 2)).bind (· "x") = some (some 3) := by
    decide +kernel
  obtain ⟨memory, hrun, hmemory⟩ := Option.bind_eq_some_iff.1 hx
  refine ⟨⟨_, memory, hread, hrun, hmemory⟩, ?_⟩
  decide +kernel

end Estate.Script
