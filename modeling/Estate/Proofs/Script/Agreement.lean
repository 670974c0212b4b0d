import Estate.Json.Printer
import Estate.Proofs.Script.Scanning

/-!
What a script that assigns literals to a variable gives for the variable: read statement by
statement it gives the last literal, searched for an assignment it gives the first one.
-/

namespace Estate.Script

open Json (Value)

/-- The value that a variable is left with by the statements of a script. -/
def assigned? (source name : String) : Option Value :=
  Keyed.get? (Keyed.ofList (valuesOf source)) name

/-- The list of one small number. -/
def single (n : Nat) : Value := .array [.number (.int n)]

lemma isLiteral_single {text : List Char} {n : Nat} (hn : n ≤ 2 ^ 53)
    (h : Json.tokens? text = some [.openBracket, .number (some (.int n)), .closeBracket]) :
    IsLiteral text (single n) where
  read := by
    rw [Value.ofText?, Json.Term.ofText?, String.toList_ofList, h]
    rfl
  compound := trivial
  whole := by
    intro toks htoks m hm
    obtain rfl := Option.some.inj (htoks.symm.trans h)
    obtain rfl : m = some (.int n) := by simpa using hm
    exact ⟨n, rfl, hn⟩

/-- Lists of one small number each, the first one with a declaration. -/
lemma isScript_twice :
    IsScript "n".toList [single 1, single 2] "var n = [1]; n = [2];".toList := by
  have hblank : Json.Blanks [' '] := by
    intro c hc
    obtain rfl := List.mem_singleton.1 hc
    rfl
  have hone : IsLiteral " [1]".toList (single 1) := isLiteral_single (by decide) rfl
  have htwo : IsLiteral " [2]".toList (single 2) := isLiteral_single (by decide) rfl
  have hfirst : IsAssignment ['n'] (single 1) "n = [1];".toList := .mk hblank hone
  have hsecond : IsAssignment ['n'] (single 2) "n = [2];".toList := .mk hblank htwo
  have hdeclared : IsStatement ['n'] (single 1) "var n = [1];".toList :=
    .declared (g := []) (by simp [Json.Blanks]) hblank (by simp) hfirst
  have hassigned : IsStatement ['n'] (single 2) " n = [2];".toList := .assigned hblank hsecond
  exact .more hdeclared (.more hassigned (.last (g := []) (by simp [Json.Blanks])))

/-- **Reading and search**: in a script that assigns literals to a name, with or without declaring
it, the reader takes the last literal for the value of the name and the search takes the first one.
So they agree where these have the same value, as they do in a script of one statement. -/
theorem read_last_searched_first {name source : String} {ws : List Value}
    (hname : IsName name.toList) (h : IsScript name.toList ws source.toList) :
    assigned? source name = ws.getLast? ∧ scan? source name = ws.head? ∧
      (assigned? source name = scan? source name ↔ ws.getLast? = ws.head?) := by
  have hread : assigned? source name = ws.getLast? := by
    rw [assigned?, valuesOf_script hname h, String.ofList_toList, Keyed.get?_ofList_last]
  have hsearched : scan? source name = ws.head? := by
    have hscan := scan?_script hname h
    rwa [String.ofList_toList] at hscan
  exact ⟨hread, hsearched, by rw [hread, hsearched]⟩

theorem read_last_searched_first_twice :
    assigned? "var n = [1]; n = [2];" "n" = some (single 2) ∧
      scan? "var n = [1]; n = [2];" "n" = some (single 1) := by
  have hname : IsName "n".toList := .mk (w := []) (by decide) (by simp) (by decide)
  obtain ⟨hread, hsearched, -⟩ := read_last_searched_first hname isScript_twice
  exact ⟨hread, hsearched⟩

/-- What the reader and the search give for a variable, as compact texts. -/
def readAndSearched (source name : String) : Option (List Char) × Option (List Char) :=
  ((assigned? source name).map Value.render, (scan? source name).map Value.render)

/-- The reader and the search differ where a name is assigned to twice, where zero has a minus sign,
where a whole number has an exponent, and where half a surrogate pair is escaped. -/
theorem read_and_search_differ :
    readAndSearched "var n = [1]; n = [2];" "n" = (some "[2]".toList, some "[1]".toList) ∧
      readAndSearched "n = [-0];" "n" = (some "[0]".toList, some "[-0.0]".toList) ∧
      readAndSearched "n = [1e3];" "n" = (some "[1000]".toList, some "[1000.0]".toList) ∧
      readAndSearched "n = [\"\\ud800\"];" "n" = (some "[\"\"]".toList, none) := by
  decide +kernel

end Estate.Script
