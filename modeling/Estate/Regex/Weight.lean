import Estate.Regex.Syntax

/-!
An engine to run patterns with. It weighs a pattern by the states of an automaton over the UTF-8
bytes of a text and holds ten megabytes. The weight is an estimate: what is proved of patterns is
proved for every engine.
-/

namespace Estate.Regex

/-- A state takes 32 bytes, and 8 more for each range of bytes that leads on from it. -/
def CharSet.weight (s : CharSet) : Nat :=
  match s.ranges with
  | [(lo, hi)] => if lo == hi then 32 * (Char.ofNat lo).utf8Size else rangesWeight 1
  | rs => rangesWeight rs.length
where
  rangesWeight (n : Nat) : Nat := if s.isAscii then 64 + 8 * n else 64 + 70 * n

def Node.weight : Node → Nat
  | empty => 32
  | set s => s.weight
  | assertion _ => 32
  | cat a b => a.weight + b.weight
  | alt a b => a.weight + b.weight + 40
  | .repeat a min max _ =>
    match max with
    | none => (Nat.max min 1) * a.weight + 80
    | some m => m * a.weight + (m - min) * 40 + 32
  | group _ a => a.weight + 64

instance : Engine := ⟨fun n => n.weight ≤ 10 * 1024 * 1024⟩

end Estate.Regex
