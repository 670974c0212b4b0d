import Estate.Selector.Syntax
import Estate.Selector.Token
import Estate.Text.Case

/-!
Reading a selector.
-/

namespace Estate.Selector

/-- Patterns are read at the top, inside other patterns, or inside a pattern for what is around an
element, which cannot hold another such pattern. -/
structure Setting where
  aroundAllowed : Bool
  relative : Bool

def dropBlanks (ts : List Token) : List Token :=
  ts.dropWhile fun t =>
    match t with
    | .blank => true
    | _ => false

/-! ### Positions among siblings -/

def sameName (s t : String) : Bool := Text.sameIgnoringAsciiCase s t

/-- The letter n, a hyphen and digits. -/
def dashDigits? (s : String) : Option Int :=
  match s.toList with
  | n :: '-' :: digits =>
    if (n == 'n' || n == 'N') && Text.isDigits digits then some (-(Text.digitsValue digits : Int))
    else none
  | _ => none

/-- An unsigned number that ends the tokens, times a sign. -/
def unsigned? (sign : Int) (ts : List Token) : Option Int :=
  match dropBlanks ts with
  | .integer b false "" :: rest => if (dropBlanks rest).isEmpty then some (sign * b) else none
  | _ => none

/-- What is added behind the letter n. -/
def addend? (ts : List Token) : Option Int :=
  match dropBlanks ts with
  | [] => some 0
  | .sign '+' :: rest => unsigned? 1 rest
  | .sign '-' :: rest => unsigned? (-1) rest
  | .integer b true "" :: rest => if (dropBlanks rest).isEmpty then some b else none
  | _ => none

/-- A name that is a multiple of places, behind a factor. -/
def multiple? (factor : Int) (name : String) (rest : List Token) : Option (Int × Int) :=
  if sameName name "n" then (addend? rest).map (factor, ·)
  else if sameName name "n-" then (unsigned? (-1) rest).map (factor, ·)
  else if (dropBlanks rest).isEmpty then (dashDigits? name).map (factor, ·)
  else none

def places? (name : String) (rest : List Token) : Option (Int × Int) :=
  if sameName name "even" && (dropBlanks rest).isEmpty then some (2, 0)
  else if sameName name "odd" && (dropBlanks rest).isEmpty then some (2, 1)
  else multiple? 1 name rest

def position? (ts : List Token) : Option (Int × Int) :=
  match dropBlanks ts with
  | .integer b _ "" :: rest => if (dropBlanks rest).isEmpty then some (0, b) else none
  | .integer a _ unit :: rest => multiple? a unit rest
  | .name s :: rest =>
    match s.toList with
    | '-' :: name => multiple? (-1) (.ofList name) rest
    | _ => places? s rest
  | .sign '+' :: .name s :: rest => places? s rest
  | _ => none

/-! ### Attributes -/

def comparison? : Token → Option Comparison
  | .sign '=' => some .equal
  | .test '~' => some .word
  | .test '|' => some .dash
  | .test '^' => some .start
  | .test '$' => some .finish
  | .test '*' => some .part
  | _ => none

/-- The letter behind a value that tells whether case is ignored. -/
def caseFlag? (ts : List Token) : Option (Option Bool) :=
  match dropBlanks ts with
  | [] => some none
  | .name s :: rest =>
    if !(dropBlanks rest).isEmpty then none
    else if sameName s "i" then some (some true)
    else if sameName s "s" then some (some false)
    else none
  | _ => none

def valueTest? (comparison : Comparison) (ts : List Token) : Option ValueTest :=
  match dropBlanks ts with
  | .name s :: rest | .text s :: rest => (caseFlag? rest).map (⟨comparison, s, ·⟩)
  | _ => none

/-- What stands in square brackets. -/
def attribute? (ts : List Token) : Option AttributeTest :=
  let build (anyVocabulary : Bool) (name : String) (rest : List Token) : Option AttributeTest :=
    match dropBlanks rest with
    | [] => some ⟨anyVocabulary, name, none⟩
    | t :: rest =>
      (comparison? t).bind fun c =>
        (valueTest? c rest).map fun value => ⟨anyVocabulary, name, some value⟩
  match dropBlanks ts with
  | .name _ :: .sign '|' :: _ => none
  | .sign '*' :: .sign '|' :: .name s :: rest => build true s rest
  | .sign '|' :: .name s :: rest | .name s :: rest => build false s rest
  | _ => none

/-! ### Conditions and patterns -/

/-- Places that have names of their own. -/
def namedPositions : List (String × List Position) :=
  [("first-child", [⟨false, false, 0, 1⟩]), ("last-child", [⟨true, false, 0, 1⟩]),
    ("only-child", [⟨false, false, 0, 1⟩, ⟨true, false, 0, 1⟩]),
    ("first-of-type", [⟨false, true, 0, 1⟩]), ("last-of-type", [⟨true, true, 0, 1⟩]),
    ("only-of-type", [⟨false, true, 0, 1⟩, ⟨true, true, 0, 1⟩])]

/-- What a word behind a colon asks for. -/
def plainClass? (name : String) : Option (List Condition) :=
  let name := Text.asciiLower name
  if name == "root" || name == "scope" then some [.root]
  else if name == "empty" then some [.empty]
  else (namedPositions.lookup name).map fun list => list.map .position

/-- The places counted by a word behind a colon, as the end counted from and whether types count. -/
def countedClasses : List (String × Bool × Bool) :=
  [("nth-child", false, false), ("nth-last-child", true, false), ("nth-of-type", false, true),
    ("nth-last-of-type", true, true)]

/-- The type at the start of a list of conditions, and the tokens behind it. No conditions are made
of nothing. -/
def type? (ts : List Token) : Option (Option (List Condition) × List Token) :=
  match ts with
  | .name _ :: .sign '|' :: _ => none
  | .name s :: rest => some (some [.type s], rest)
  | .sign '*' :: .sign '|' :: .name s :: rest => some (some [.type s], rest)
  | .sign '*' :: .sign '|' :: .sign '*' :: rest => some (some [.anything], rest)
  | .sign '*' :: .sign '|' :: _ => none
  | .sign '*' :: rest => some (some [.anything], rest)
  | .sign '|' :: .name s :: rest => some (some [.noVocabulary, .type s], rest)
  | .sign '|' :: .sign '*' :: rest => some (some [.noVocabulary], rest)
  | .sign '|' :: _ => none
  | _ => some (none, ts)

/-- A combinator between two lists of conditions, and the tokens behind it. -/
def combinator? (ts : List Token) : Option (Combinator × List Token) :=
  match dropBlanks ts with
  | .sign '>' :: rest => some (.child, rest)
  | .sign '+' :: rest => some (.next, rest)
  | .sign '~' :: rest => some (.later, rest)
  | [] => none
  | rest => if rest.length < ts.length then some (.descendant, rest) else none

def isComma : Token → Bool
  | .sign ',' => true
  | _ => false

/-- A bracket that closes nothing, or a text broken by a line end, is among the tokens. -/
def anyFault : List Token → Bool
  | [] => false
  | .fault :: _ => true
  | .block _ _ content :: ts => anyFault content || anyFault ts
  | _ :: ts => anyFault ts

mutual

/-- What a word with brackets behind a colon asks for. -/
def calledClass? (setting : Setting) (name : String) (content : List Token) :
    Nat → Option Condition
  | 0 => none
  | depth + 1 =>
    let name := Text.asciiLower name
    let inner : Setting := { setting with relative := false }
    match countedClasses.lookup name with
    | some (fromEnd, sameType) =>
      (position? content).map fun (a, b) => .position ⟨fromEnd, sameType, a, b⟩
    | none =>
      if name == "is" || name == "where" then
        if anyFault content then none
        else some (.anyOf ((content.splitOnP isComma).filterMap (pattern? inner · depth)))
      else if name == "not" then
        ((content.splitOnP isComma).mapM (pattern? inner · depth)).map .noneOf
      else if name == "has" && setting.aroundAllowed then
        ((content.splitOnP isComma).mapM (pattern? ⟨false, true⟩ · depth)).map .around
      else none

/-- The conditions at the start of the tokens, and the tokens behind them. -/
def conditions? (setting : Setting) (ts : List Token) : Nat → Option (List Condition × List Token)
  | 0 => none
  | depth + 1 =>
    let add (more : List Condition) (rest : List Token) : Option (List Condition × List Token) :=
      (conditions? setting rest depth).map fun (conditions, rest) => (more ++ conditions, rest)
    match ts with
    | .hash s true :: rest => add [.id s] rest
    | .sign '.' :: .name s :: rest => add [.ofClass s] rest
    | .sign '.' :: _ => none
    | .block none '[' content :: rest =>
      (attribute? content).bind fun test => add [.attribute test] rest
    | .sign ':' :: .name s :: rest => (plainClass? s).bind fun conditions => add conditions rest
    | .sign ':' :: .block (some name) _ content :: rest =>
      (calledClass? setting name content depth).bind fun condition => add [condition] rest
    | .sign ':' :: _ => none
    | _ => some ([], ts)

/-- Conditions with a type before them; there is at least one. -/
def compound? (setting : Setting) (ts : List Token) : Nat → Option (List Condition × List Token)
  | 0 => none
  | depth + 1 =>
    (type? (dropBlanks ts)).bind fun (type, rest) =>
      (conditions? setting rest depth).bind fun (conditions, rest) =>
        let all := type.getD [] ++ conditions
        if all.isEmpty then none else some (all, rest)

/-- A pattern that goes on to the right of another. -/
def patternFrom? (setting : Setting) (left : Pattern) (ts : List Token) : Nat → Option Pattern
  | 0 => none
  | depth + 1 =>
    match combinator? ts with
    | none => if (dropBlanks ts).isEmpty then some left else none
    | some (how, rest) =>
      (compound? setting rest depth).bind fun (conditions, rest) =>
        patternFrom? setting (.joined left how conditions) rest depth

/-- A pattern made of all the tokens. One for what is around an element starts with a combinator,
which may go without saying. -/
def pattern? (setting : Setting) (ts : List Token) : Nat → Option Pattern
  | 0 => none
  | depth + 1 =>
    if setting.relative then
      let ts := dropBlanks ts
      let (how, rest) := (combinator? ts).getD (.descendant, ts)
      (compound? setting rest depth).bind fun (conditions, rest) =>
        patternFrom? setting (.joined (.single [.anchor]) how conditions) rest depth
    else
      (compound? setting ts depth).bind fun (conditions, rest) =>
        patternFrom? setting (.single conditions) rest depth

end

end Selector

/-- Each token takes the depth down by at most four. -/
def Selector.ofText? (s : String) : Option Selector :=
  let ts := Selector.Token.ofText s
  let depth := 4 * s.length + 4
  ((ts.splitOnP Selector.isComma).mapM fun part =>
    Selector.pattern? ⟨true, false⟩ part depth).map Selector.mk

end Estate
