import Estate.Regex.CharSet

/-!
Regular expressions as trees.
-/

namespace Estate.Regex

/-- Conditions on a position between two characters. -/
inductive Assertion where
  | textStart
  | textEnd
  | lineStart
  | lineEnd
  | lineStartCr
  | lineEndCr
  | wordBoundary (ascii : Bool)
  | notWordBoundary (ascii : Bool)
  | wordStart (ascii : Bool)
  | wordEnd (ascii : Bool)
  | wordStartHalf (ascii : Bool)
  | wordEndHalf (ascii : Bool)
deriving DecidableEq

inductive Node where
  | empty
  | set (s : CharSet)
  | assertion (a : Assertion)
  | cat (first second : Node)
  | alt (first second : Node)
  | repeat (body : Node) (min : Nat) (max : Option Nat) (greedy : Bool)
  | group (index : Nat) (body : Node)

namespace Node

def ofItems : List Node → Node
  | [] => empty
  | [n] => n
  | n :: m :: rest => cat n (ofItems (m :: rest))

def ofBranches : List Node → Node
  | [] => empty
  | [n] => n
  | n :: m :: rest => alt n (ofBranches (m :: rest))

/-- The empty text may match. -/
def nullable : Node → Bool
  | empty => true
  | set _ => false
  | assertion _ => true
  | cat a b => a.nullable && b.nullable
  | alt a b => a.nullable || b.nullable
  | .repeat a min _ _ => min == 0 || a.nullable
  | group _ a => a.nullable

end Node

/-- The engine that runs patterns. It refuses a pattern whose program would take more memory than it
has for one; how it counts is its own affair. -/
class Engine where
  holds : Node → Bool

end Estate.Regex
