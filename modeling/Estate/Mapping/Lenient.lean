import Estate.Text.Blank

/-!
Comments and trailing commas in JSON texts, and their removal. Inside string literals everything
stands for itself.
-/

namespace Estate.Lenient

/-- Where a pass over the text stands. A block comment remembers the character before. -/
inductive Mode where
  | outside
  | string
  | escaped
  | line
  | block (before : Char)
deriving DecidableEq

/-- Take comments out. A line comment leaves the line feed that ends it. -/
def stripFrom : Mode → List Char → List Char
  | _, [] => []
  | .outside, '/' :: '/' :: cs => stripFrom .line cs
  | .outside, '/' :: '*' :: cs => stripFrom (.block '\x00') cs
  | .outside, c :: cs => c :: stripFrom (if c == '"' then .string else .outside) cs
  | .string, c :: cs =>
    if c == '\\' then c :: stripFrom .escaped cs
    else if c == '"' then c :: stripFrom .outside cs
    else c :: stripFrom .string cs
  | .escaped, c :: cs => c :: stripFrom .string cs
  | .line, c :: cs => if c == '\n' then c :: stripFrom .outside cs else stripFrom .line cs
  | .block before, c :: cs =>
    if before == '*' && c == '/' then stripFrom .outside cs else stripFrom (.block c) cs

@[simp] theorem stripFrom_nil (m : Mode) : stripFrom m [] = [] := by rw [stripFrom]

/-- A character that starts no comment stays. -/
theorem stripFrom_plain {c : Char} (h : c ≠ '/') (cs : List Char) :
    stripFrom .outside (c :: cs) =
      c :: stripFrom (if c == '"' then .string else .outside) cs := by
  rw [stripFrom]
  · exact fun _ hc _ => h hc
  · exact fun _ hc _ => h hc

def stripComments (cs : List Char) : List Char := stripFrom .outside cs

/-- A closing bracket comes next, blanks apart. -/
def closes (cs : List Char) : Bool :=
  match (Text.trimStart cs).head? with
  | some '}' => true
  | some ']' => true
  | _ => false

/-- Take out the commas outside of strings that a closing bracket follows. -/
def dropFrom : Mode → List Char → List Char
  | _, [] => []
  | .string, c :: cs =>
    if c == '\\' then c :: dropFrom .escaped cs
    else if c == '"' then c :: dropFrom .outside cs
    else c :: dropFrom .string cs
  | .escaped, c :: cs => c :: dropFrom .string cs
  | _, c :: cs =>
    if c == '"' then c :: dropFrom .string cs
    else if c == ',' && closes cs then dropFrom .outside cs
    else c :: dropFrom .outside cs

@[simp] theorem dropFrom_nil (m : Mode) : dropFrom m [] = [] := by rw [dropFrom]

/-- A character that is no quote and no comma stays. -/
theorem dropFrom_plain {c : Char} (hq : c ≠ '"') (hc : c ≠ ',') (cs : List Char) :
    dropFrom .outside (c :: cs) = c :: dropFrom .outside cs := by
  rw [dropFrom]
  · simp [hq, hc]
  · exact fun h => nomatch h
  · exact fun h => nomatch h

def dropTrailingCommas (cs : List Char) : List Char := dropFrom .outside cs

/-- The text without comments and trailing commas. -/
def clean (s : String) : String := .ofList (dropTrailingCommas (stripComments s.toList))

end Estate.Lenient
