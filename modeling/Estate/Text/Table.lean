/-!
Tables over code points, in ascending order: ranges, and runs that last until the next one starts.
Some are written as words, with numbers in hexadecimal.
-/

namespace Estate.Text

/-- Ranges of code points, both ends included, in ascending order and apart from each other. -/
abbrev Ranges := List (Nat × Nat)

def Ranges.covers : Ranges → Nat → Bool
  | [], _ => false
  | (lo, hi) :: rest, n => lo ≤ n && (n ≤ hi || Ranges.covers rest n)

/-- Runs of code points: each entry starts one, which lasts until the next. -/
abbrev Runs (α : Type) := List (Nat × α)

/-- What a number has by its run; before the first run it has what is given. -/
def Runs.at {α : Type} (a : α) : Runs α → Nat → α
  | [], _ => a
  | (start, b) :: rest, n => if n < start then a else Runs.at b rest n

def hexDigit? (c : Char) : Option Nat :=
  if '0' ≤ c && c ≤ '9' then some (c.toNat - 48)
  else if 'a' ≤ c && c ≤ 'f' then some (c.toNat - 87)
  else if 'A' ≤ c && c ≤ 'F' then some (c.toNat - 55)
  else none

def ofHex (cs : List Char) : Nat := cs.foldl (fun n c => n * 16 + (hexDigit? c).getD 0) 0

/-- The words of a text, which stand on lines with spaces between. -/
def words (s : String) : List (List Char) :=
  (s.toList.splitOnP fun c => c == ' ' || c == '\n').filter (!·.isEmpty)

/-- Words such as b5 and 41-5a. -/
def Ranges.ofWords (s : String) : Ranges :=
  (words s).map fun w =>
    let lo := ofHex (w.takeWhile (· != '-'))
    match w.dropWhile (· != '-') with
    | _ :: hi => (lo, ofHex hi)
    | [] => (lo, lo)

/-- Words such as 41Latin: a number, then a name that starts with a capital letter. -/
def Runs.ofWords (s : String) : Runs String :=
  (words s).map fun w =>
    let isDigit : Char → Bool := fun c => !('A' ≤ c && c ≤ 'Z')
    (ofHex (w.takeWhile isDigit), .ofList (w.dropWhile isDigit))

end Estate.Text
