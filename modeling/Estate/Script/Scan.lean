import Estate.Json.Term
import Estate.Text.Category
import Estate.Text.Replace

/-!
Finding the object or list assigned to a variable in a text that need not be a script.
-/

namespace Estate.Script

/-- Brackets and quotes passed so far in a literal: how many brackets are open, the quote that is
open, and whether the next character is escaped. -/
structure Nesting where
  depth : Nat
  quote : Option Char
  escaped : Bool

/-- The text up to the bracket that closes all that have been opened. Brackets between quotes do not
count. -/
def balancedFrom (n : Nesting) : List Char → Option (List Char)
  | [] => none
  | c :: cs =>
    let go (n : Nesting) : Option (List Char) := (balancedFrom n cs).map (c :: ·)
    match n.quote with
    | some q =>
      if n.escaped then go { n with escaped := false }
      else if c == '\\' then go { n with escaped := true }
      else if c == q then go { n with quote := none }
      else go n
    | none =>
      if c == '"' || c == '\'' || c == '`' then go { n with quote := some c }
      else if c == '\x7b' || c == '[' then go { n with depth := n.depth + 1 }
      else if c == '\x7d' || c == ']' then
        match n.depth with
        | 0 => none
        | 1 => some [c]
        | d + 2 => go { n with depth := d + 1 }
      else go n

/-- The literal at the start of a text. -/
def balanced? (cs : List Char) : Option (List Char) := balancedFrom ⟨0, none, false⟩ cs

/-- Leave out commas that only blanks part from a closing bracket, with the blanks. -/
def dropCommasFrom : Nat → List Char → List Char
  | _, [] => []
  | skip + 1, _ :: cs => dropCommasFrom skip cs
  | 0, c :: cs =>
    let blanks := cs.takeWhile Text.isBlank
    let next := (cs.drop blanks.length).head?
    if c == ',' && (next == some '\x7d' || next == some ']') then dropCommasFrom blanks.length cs
    else c :: dropCommasFrom 0 cs

def isKeyStart (c : Char) : Bool := Text.isAsciiLetter c || c == '_' || c == '$'

def isKeyPart (c : Char) : Bool := Text.isWord c || c == '$'

/-- A key without quotes at the start of a text: the blanks before it, the key, and how many
characters they take up with the colon behind. -/
def bareKey? (cs : List Char) : Option (List Char × List Char × Nat) :=
  let blanks := cs.takeWhile Text.isBlank
  let rest := cs.drop blanks.length
  let key := rest.takeWhile isKeyPart
  let behind := rest.drop key.length
  let blanks' := behind.takeWhile Text.isBlank
  if key.head?.any isKeyStart && (behind.drop blanks'.length).head? == some ':' then
    some (blanks, key, blanks.length + key.length + blanks'.length + 1)
  else none

/-- Put quotes around keys that follow an opening brace or a comma. -/
def quoteKeysFrom : Nat → List Char → List Char
  | _, [] => []
  | skip + 1, _ :: cs => quoteKeysFrom skip cs
  | 0, c :: cs =>
    match (if c == '\x7b' || c == ',' then bareKey? cs else none) with
    | some (blanks, key, size) => c :: (blanks ++ '"' :: (key ++ '"' :: ':' :: quoteKeysFrom size cs))
    | none => c :: quoteKeysFrom 0 cs

/-- A literal written in the manner of scripts made into JSON. -/
def inJson (cs : List Char) : List Char :=
  quoteKeysFrom 0 (dropCommasFrom 0 (cs.map fun c => if c == '\'' then '"' else c))

/-- The value of a literal: as JSON, or as JSON in the manner of scripts. -/
def literalValue? (cs : List Char) : Option Json.Value :=
  (Json.Value.ofText? (.ofList cs)).or (Json.Value.ofText? (.ofList (inJson cs)))

/-- An assignment of an object or a list to a name at the start of a text: how many characters come
before the literal. -/
def assignment? (name cs : List Char) : Option Nat :=
  (Text.after? name cs).bind fun rest =>
    let blanks := rest.takeWhile Text.isBlank
    match rest.drop blanks.length with
    | '=' :: rest =>
      let blanks' := rest.takeWhile Text.isBlank
      let next := (rest.drop blanks'.length).head?
      if next == some '\x7b' || next == some '[' then
        some (name.length + blanks.length + 1 + blanks'.length)
      else none
    | _ => none

def runsInto (before : Option Char) : Bool :=
  before.any fun c => Text.isAlphanumeric c || c == '_' || c == '$'

/-- The value of the first assignment to a name whose literal can be read. The name must not be the
end of a longer one. -/
def scanFrom (name : List Char) (before : Option Char) (skip : Nat) : List Char → Option Json.Value
  | [] => none
  | c :: cs =>
    match skip with
    | n + 1 => scanFrom name (some c) n cs
    | 0 =>
      match assignment? name (c :: cs) with
      | none => scanFrom name (some c) 0 cs
      | some size =>
        let found :=
          if runsInto before then none else (balanced? ((c :: cs).drop size)).bind literalValue?
        found.or (scanFrom name (some c) size cs)

def scan? (source name : String) : Option Json.Value :=
  scanFrom name.toList none 0 source.toList

end Estate.Script
