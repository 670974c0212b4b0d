import Estate.Regex.Syntax

/-!
Programs for matching: a tree becomes a list of instructions, each naming the instructions that
may follow.
-/

namespace Estate.Regex

inductive Instruction where
  | char (members : CharSet) (next : Nat)
  | check (a : Assertion) (next : Nat)
  | open (next : Nat)
  | close (next : Nat)
  | split (first second : Nat)
  | jump (next : Nat)
  | accept

/-- Instructions and the one to start with. Of the groups only the first is kept. -/
structure Program where
  code : Array Instruction
  start : Nat

namespace Program

abbrev Code := Array Instruction

/-- The greedy order tries the body first. -/
def branch (greedy : Bool) (body exit : Nat) : Instruction :=
  if greedy then .split body exit else .split exit body

/-- Add code in front of an instruction `next`; the result is where the new code starts. -/
abbrev Emit := Nat → Code → Nat × Code

def repeatTimes (emit : Emit) : Nat → Emit
  | 0, next, code => (next, code)
  | n + 1, next, code =>
    let (entry, code) := repeatTimes emit n next code
    emit entry code

/-- One or more times: the body, then the choice to run it again. -/
def emitPlus (emit : Emit) (greedy : Bool) : Emit := fun next code =>
  let loop := code.size
  let (entry, code) := emit loop (code.push (.jump next))
  (entry, code.setIfInBounds loop (branch greedy entry next))

/-- Any number of times, as one or more times or not at all: a body that may match nothing is left
once it has done so. -/
def emitStar (emit : Emit) (greedy : Bool) : Emit := fun next code =>
  let (entry, code) := emitPlus emit greedy next code
  (code.size, code.push (branch greedy entry next))

/-- At most so many times, each further one optional. -/
def emitUpTo (emit : Emit) (greedy : Bool) (exit : Nat) : Nat → Emit
  | 0, next, code => (next, code)
  | n + 1, next, code =>
    let (inner, code) := emitUpTo emit greedy exit n next code
    let (entry, code) := emit inner code
    (code.size, code.push (branch greedy entry exit))

def emit : Node → Emit
  | .empty, next, code => (next, code)
  | .set s, next, code => (code.size, code.push (.char s next))
  | .assertion a, next, code => (code.size, code.push (.check a next))
  | .cat a b, next, code =>
    let (entry, code) := emit b next code
    emit a entry code
  | .alt a b, next, code =>
    let (second, code) := emit b next code
    let (first, code) := emit a next code
    (code.size, code.push (.split first second))
  | .repeat a min max greedy, next, code =>
    match max with
    | some m =>
      let (entry, code) := emitUpTo (emit a) greedy next (m - min) next code
      repeatTimes (emit a) min entry code
    | none =>
      if min == 0 then emitStar (emit a) greedy next code
      else
        let (entry, code) := emitPlus (emit a) greedy next code
        repeatTimes (emit a) (min - 1) entry code
  | .group index a, next, code =>
    if index == 1 then
      let (entry, code) := emit a code.size (code.push (.close next))
      (code.size, code.push (.open entry))
    else emit a next code

def ofNode (n : Node) : Program :=
  let (entry, code) := emit n 0 #[.accept]
  ⟨code, entry⟩

end Program

end Estate.Regex
