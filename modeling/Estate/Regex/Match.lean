import Estate.Regex.Parser
import Estate.Regex.Program

/-!
Matching by advancing all threads of a program together, in the order of their priority: of the
leftmost matches the one is found that a backtracking search would find first.
-/

namespace Estate.Regex

/-- Where the match and its first group lie. -/
structure Spans where
  start : Nat
  groupStart : Option Nat
  groupEnd : Option Nat

structure Match where
  spans : Spans
  stop : Nat

structure Thread where
  place : Nat
  spans : Spans

/-- A position with the characters before and behind it. -/
structure Gap where
  position : Nat
  before : Option Char
  next : Option Char

def Gap.isWord (ascii : Bool) (c : Option Char) : Bool :=
  c.any fun c => if ascii then Text.isAsciiAlphanumeric c || c == '_' else Text.isWord c

def Gap.holds (g : Gap) : Assertion → Bool
  | .textStart => g.before.isNone
  | .textEnd => g.next.isNone
  | .lineStart => g.before.all (· == '\n')
  | .lineEnd => g.next.all (· == '\n')
  | .lineStartCr => g.before.all fun c => c == '\n' || (c == '\r' && g.next != some '\n')
  | .lineEndCr => g.next.all fun c => c == '\r' || (c == '\n' && g.before != some '\r')
  | .wordBoundary ascii => isWord ascii g.before != isWord ascii g.next
  | .notWordBoundary ascii => isWord ascii g.before == isWord ascii g.next
  | .wordStart ascii => !isWord ascii g.before && isWord ascii g.next
  | .wordEnd ascii => isWord ascii g.before && !isWord ascii g.next
  | .wordStartHalf ascii => !isWord ascii g.before
  | .wordEndHalf ascii => !isWord ascii g.next

/-- Threads that wait for a character or accept, the last first, and the places already visited. -/
structure Active where
  threads : List Thread
  visited : Array Bool

/-- Follow a thread up to the characters it waits for. Places visited before are not followed
again: a thread of higher priority has been there. -/
def follow (code : Array Instruction) (g : Gap) : Nat → Thread → Active → Active
  | 0, _, a => a
  | fuel + 1, t, a =>
    if a.visited.getD t.place true then a
    else
      let a := { a with visited := a.visited.setIfInBounds t.place true }
      match code[t.place]? with
      | none => a
      | some (.char _ _) => { a with threads := t :: a.threads }
      | some .accept => { a with threads := t :: a.threads }
      | some (.check s next) => if g.holds s then follow code g fuel { t with place := next } a else a
      | some (.open next) =>
        follow code g fuel ⟨next, { t.spans with groupStart := some g.position, groupEnd := none }⟩ a
      | some (.close next) =>
        follow code g fuel ⟨next, { t.spans with groupEnd := some g.position }⟩ a
      | some (.split first second) =>
        follow code g fuel { t with place := second }
          (follow code g fuel { t with place := first } a)
      | some (.jump next) => follow code g fuel { t with place := next } a

/-- Threads up to the first that accepts; those behind it are given up. -/
def cutAtAccept (code : Array Instruction) : List Thread → List Thread × Option Thread
  | [] => ([], none)
  | t :: rest =>
    match code[t.place]? with
    | some .accept => ([], some t)
    | _ =>
      let (kept, hit) := cutAtAccept code rest
      (t :: kept, hit)

/-- The thread behind a character it waits for. -/
def Thread.take? (code : Array Instruction) (c : Char) (t : Thread) : Option Thread :=
  match code[t.place]? with
  | some (.char members next) => if members.covers c.toNat then some { t with place := next } else none
  | _ => none

/-- Go on from a position with the threads that got there and the best match so far. -/
def advanceThreads (p : Program) :
    List Char → Nat → Option Char → List Thread → Option Match → Option Match
  | cs, position, before, threads, best =>
    let g : Gap := ⟨position, before, cs.head?⟩
    let fresh := if best.isNone then [⟨p.start, ⟨position, none, none⟩⟩] else []
    let none : Active := ⟨[], Array.replicate p.code.size false⟩
    let active := (threads ++ fresh).foldl (fun a t => follow p.code g (p.code.size + 1) t a) none
    let (kept, hit) := cutAtAccept p.code active.threads.reverse
    let best := match hit with
      | some t => some ⟨t.spans, position⟩
      | .none => best
    match cs with
    | [] => best
    | c :: rest =>
      let moved := kept.filterMap (Thread.take? p.code c)
      if moved.isEmpty && best.isSome then best
      else advanceThreads p rest (position + 1) (some c) moved best

/-- A place in a text: what is left, the position, and the character before. -/
structure Cursor where
  rest : List Char
  position : Nat
  before : Option Char

def Cursor.drop (k : Cursor) : Nat → Cursor
  | 0 => k
  | n + 1 =>
    match k.rest with
    | [] => k
    | c :: rest => Cursor.drop ⟨rest, k.position + 1, some c⟩ n

def Cursor.find? (p : Program) (k : Cursor) : Option Match :=
  advanceThreads p k.rest k.position k.before [] none

/-- The next match. An empty one may not stand where the last match ended. -/
def Cursor.next? (p : Program) (k : Cursor) (last : Option Nat) : Option Match :=
  match k.find? p with
  | some m =>
    if m.spans.start == m.stop && last == some m.stop then
      if k.rest.isEmpty then none else (k.drop 1).find? p
    else some m
  | none => none

/-- At most `fuel` matches from a place on, from left to right and without overlap. -/
def matchesFrom (p : Program) : Nat → Cursor → Option Nat → List Match
  | 0, _, _ => []
  | fuel + 1, k, last =>
    match k.next? p last with
    | some m => m :: matchesFrom p fuel (k.drop (m.stop - k.position)) (some m.stop)
    | none => []

end Regex

/-- A regular expression: its pattern as written, and the program that matches it. -/
structure Regex where
  pattern : String
  program : Regex.Program

namespace Regex

def ofPattern? [Engine] (ignoreCase : Bool) (pattern : String) : Option Regex :=
  (Node.ofPattern? ignoreCase pattern).map fun n => ⟨pattern, .ofNode n⟩

/-- Matches as texts, at most so many: of each its first group if that took part, else all. -/
def capturesUpTo (r : Regex) (limit : Nat) (text : String) : List String :=
  let cs := text.toList
  (matchesFrom r.program limit ⟨cs, 0, none⟩ none).map fun m =>
    let (start, stop) := match m.spans.groupStart, m.spans.groupEnd with
      | some a, some b => (a, b)
      | _, _ => (m.spans.start, m.stop)
    .ofList ((cs.drop start).take (stop - start))

/-- All matches; there is at most one more of them than there are characters. -/
def captures (r : Regex) (text : String) : List String :=
  r.capturesUpTo (text.toList.length + 1) text

end Regex

end Estate
