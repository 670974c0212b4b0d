import Estate.Text.Blank
import Estate.Text.Case
import Estate.Text.Category
import Estate.Text.WritingSystem

/-!
Sets of characters as ranges of code points, in ascending order and apart from each other.
-/

namespace Estate.Regex

structure CharSet where
  ranges : Text.Ranges
deriving DecidableEq

namespace CharSet

def maxCode : Nat := 0x10FFFF

def full : CharSet := ⟨[(0, maxCode)]⟩

/-- Join ranges, ordered by their lower ends, that overlap or touch. -/
def join : List (Nat × Nat) → List (Nat × Nat)
  | [] => []
  | [r] => [r]
  | (a, b) :: (c, d) :: rest =>
    if c ≤ b + 1 then join ((a, max b d) :: rest) else (a, b) :: join ((c, d) :: rest)
termination_by rs => rs.length

def ofRanges (rs : List (Nat × Nat)) : CharSet := ⟨join (rs.mergeSort fun r s => r.1 ≤ s.1)⟩

def ofCode (n : Nat) : CharSet := ⟨[(n, n)]⟩

def covers (s : CharSet) (n : Nat) : Bool := s.ranges.covers n

def union (s t : CharSet) : CharSet := ofRanges (s.ranges ++ t.ranges)

/-- The gaps between ranges from a code point on. -/
def gaps (start : Nat) : List (Nat × Nat) → List (Nat × Nat)
  | [] => if start ≤ maxCode then [(start, maxCode)] else []
  | (a, b) :: rest => (if start < a then [(start, a - 1)] else []) ++ gaps (b + 1) rest

def complement (s : CharSet) : CharSet := ⟨gaps 0 s.ranges⟩

def inter (s t : CharSet) : CharSet := (s.complement.union t.complement).complement

def diff (s t : CharSet) : CharSet := s.inter t.complement

def symmDiff (s t : CharSet) : CharSet := (s.diff t).union (t.diff s)

/-- Characters that differ in case alone, as lists of code points. -/
def caseOrbits : List (List Nat) :=
  let pairs := Text.foldedLetters.map fun (letter, folded) => (folded, letter)
  let ascii := (List.range 26).map fun i => (97 + i, 65 + i)
  let sorted := (pairs ++ ascii).mergeSort fun p q => p.1 ≤ q.1
  (sorted.splitBy fun p q => p.1 == q.1).filterMap fun orbit =>
    orbit.head?.map fun p => p.1 :: orbit.map (·.2)

/-- The set with all that differs in case from its characters. -/
def foldCase (s : CharSet) : CharSet :=
  let touched := caseOrbits.filter fun orbit => orbit.any s.covers
  if touched.isEmpty then s
  else ofRanges (s.ranges ++ touched.flatten.map fun n => (n, n))

/-- The same for ASCII letters alone. -/
def foldAsciiCase (s : CharSet) : CharSet :=
  let letters := (List.range 26).flatMap fun i =>
    if s.covers (65 + i) || s.covers (97 + i) then [(65 + i, 65 + i), (97 + i, 97 + i)] else []
  ofRanges (s.ranges ++ letters)

/-- The ranges of the runs that satisfy a test. -/
def runRanges {α : Type} (p : α → Bool) : Text.Runs α → Text.Ranges
  | [] => []
  | [(start, a)] => if p a then [(start, maxCode)] else []
  | (start, a) :: (next, b) :: rest =>
    (if p a then [(start, next - 1)] else []) ++ runRanges p ((next, b) :: rest)

def ofCategories (p : Text.GeneralCategory → Bool) : CharSet :=
  ofRanges (runRanges p Text.categoryRuns)

def ofScript (name : String) : CharSet := ofRanges (runRanges (· == name) Text.scriptRuns)

def digits : CharSet := ofCategories (· == .nd)

def blanks : CharSet :=
  ⟨[(9, 13), (32, 32), (0x85, 0x85), (0xA0, 0xA0), (0x1680, 0x1680), (0x2000, 0x200A),
    (0x2028, 0x2029), (0x202F, 0x202F), (0x205F, 0x205F), (0x3000, 0x3000)]⟩

def alphabetic : CharSet :=
  (ofCategories fun g => g.isLetter || g == .nl).union (ofRanges Text.otherAlphabetic)

def wordChars : CharSet :=
  ((ofCategories fun g => g.isMark || g == .nd || g == .pc).union alphabetic).union
    ⟨[(0x200C, 0x200D)]⟩

def asciiDigits : CharSet := ⟨[(48, 57)]⟩

def asciiBlanks : CharSet := ⟨[(9, 13), (32, 32)]⟩

def asciiWordChars : CharSet := ⟨[(48, 57), (65, 90), (95, 95), (97, 122)]⟩

def isAscii (s : CharSet) : Bool := s.ranges.all fun r => r.2 < 128

end CharSet

end Estate.Regex
