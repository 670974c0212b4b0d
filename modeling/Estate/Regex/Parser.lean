import Estate.Regex.Property
import Estate.Regex.Syntax
import Estate.Text.Integer
import Estate.Text.Replace

/-!
Reading of patterns. There are Unicode classes, set operations in brackets, named groups, flags and
lazy repetition; there is no look-around, no back-reference and no octal escape. A pattern outside
the syntax has no tree.
-/

namespace Estate.Regex

structure Flags where
  ignoreCase : Bool
  multiLine : Bool
  dotAll : Bool
  swapGreed : Bool
  unicode : Bool
  crlf : Bool
  verbose : Bool

def Flags.standard : Flags := ⟨false, false, false, false, true, false, false⟩

/-- What is left to read, the flags in force, and the groups met so far. -/
structure Reading where
  rest : List Char
  flags : Flags
  groups : Nat
  names : List (List Char)

abbrev Reader := StateT Reading Option

namespace Reader

def peek? : Reader (Option Char) := do return (← get).rest.head?

/-- The next character, which must exist. -/
def peek : Reader Char := do (← peek?).elim failure pure

def drop (n : Nat) : Reader Unit := modify fun s => { s with rest := s.rest.drop n }

def blanksAndComments : Nat → List Char → List Char
  | 0, cs => cs
  | fuel + 1, cs =>
    match cs with
    | '#' :: rest => blanksAndComments fuel (rest.dropWhile (· != '\n'))
    | c :: rest => if Text.isBlank c then blanksAndComments fuel rest else cs
    | [] => []

/-- Blanks and comments mean nothing in verbose mode. -/
def skipSpace : Reader Unit := modify fun s =>
  if s.flags.verbose then { s with rest := blanksAndComments s.rest.length s.rest } else s

/-- Take a character and the space behind it; something must be left. -/
def advance : Reader Unit := do
  drop 1
  skipSpace
  if (← get).rest.isEmpty then failure

def startsWith (word : String) : Reader Bool := do
  return Text.startsWith (← get).rest word.toList

/-- Take a fixed text if it comes next. -/
def accept (word : String) : Reader Bool := do
  if ← startsWith word then
    drop word.length
    return true
  else return false

/-- Take characters while they satisfy a test. -/
def takeWhile (p : Char → Bool) : Reader (List Char) := do
  let s ← get
  set { s with rest := s.rest.dropWhile p }
  return s.rest.takeWhile p

/-- In verbose mode spaces may stand between the characters taken. -/
def takeSpaced (p : Char → Bool) : Nat → Reader (List Char)
  | 0 => pure []
  | fuel + 1 => do
    match ← peek? with
    | some c =>
      if p c then
        drop 1
        skipSpace
        return c :: (← takeSpaced p fuel)
      else return []
    | none => return []

def remaining : Reader Nat := do return (← get).rest.length

end Reader

open Reader

/-- One unit of a pattern: how deep it nests, and whether it may be repeated. -/
structure Item where
  node : Node
  depth : Nat
  repeatable : Bool

def leaf (n : Node) : Item := ⟨n, 0, true⟩

/-- Patterns may not nest deeper. -/
def depthLimit : Nat := 250

def isMeta (c : Char) : Bool := "\\.+*?()|[]\x7b\x7d^$#&-~".toList.contains c

def isEscapable (c : Char) : Bool :=
  isMeta c || (Text.isAscii c && !Text.isAsciiAlphanumeric c && c != '<' && c != '>')

/-- What an escape stands for. -/
inductive Escape where
  | literal (code : Nat)
  | byte (code : Nat)
  | set (s : CharSet)
  | assertion (a : Assertion)

def isScalar (n : Nat) : Bool := n < 0xD800 || (0xE000 ≤ n && n < 0x110000)

/-- A character by its code in hexadecimal, of fixed width or in braces. -/
def readHex (kind : Char) : Reader Escape := do
  advance
  if (← peek) == '{' then
    drop 1
    let digits ← takeSpaced (· != '}') (← remaining)
    if (← peek) != '}' then failure
    drop 1
    if digits.isEmpty || !digits.all (fun d => (Text.hexDigit? d).isSome) then failure
    let n := Text.ofHex digits
    if isScalar n then return .literal n else failure
  else
    let width := if kind == 'x' then 2 else if kind == 'u' then 4 else 8
    let digits ← takeSpaced (fun d => (Text.hexDigit? d).isSome) width
    if digits.length != width then failure
    let n := Text.ofHex digits
    if !isScalar n then failure
    return if kind == 'x' && 128 ≤ n then .byte n else .literal n

/-- The test of a property and its value, or of a bare name. -/
def propertySet? (name : List Char) : Option CharSet :=
  match Text.cutAt? "!=".toList name with
  | some (p, v) => (ofPropertyValue? p v).map (·.complement)
  | none =>
    match Text.cutAt? [':'] name with
    | some (p, v) => ofPropertyValue? p v
    | none =>
      match Text.cutAt? ['='] name with
      | some (p, v) => ofPropertyValue? p v
      | none => ofBareName? name

/-- Fold the case of a set under the flags, then complement it if asked to. -/
def finishSet (f : Flags) (negated : Bool) (s : CharSet) : CharSet :=
  let folded :=
    if f.ignoreCase then (if f.unicode then s.foldCase else s.foldAsciiCase) else s
  if negated then folded.complement else folded

def readProperty (negated : Bool) : Reader Escape := do
  advance
  let c ← peek
  let name ←
    if c == '{' then do
      drop 1
      skipSpace
      let name ← takeSpaced (· != '}') (← remaining)
      if (← peek) != '}' then failure
      drop 1
      pure name
    else do
      if c == '\\' then failure
      drop 1
      skipSpace
      pure [c]
  let s ← (propertySet? name).elim failure pure
  let f := (← get).flags
  if !f.unicode then failure
  return .set (finishSet f negated s)

/-- The class of a letter such as d; without Unicode its complement would match bytes that are no
text, which `perlSet?` leaves to the caller to refuse. -/
def perlSet? (unicode : Bool) (c : Char) : Option CharSet :=
  match Text.lowerAscii c with
  | 'd' => some (if unicode then CharSet.digits else .asciiDigits)
  | 's' => some (if unicode then CharSet.blanks else .asciiBlanks)
  | 'w' => some (if unicode then CharSet.wordChars else .asciiWordChars)
  | _ => none

def specialLetter? (c : Char) : Option Nat :=
  match c with
  | 'a' => some 7
  | 'f' => some 12
  | 't' => some 9
  | 'n' => some 10
  | 'r' => some 13
  | 'v' => some 11
  | _ => none

/-- The word boundary behind its letter, which a name in braces may make one-sided. -/
def readBoundary (ascii : Bool) : Reader Assertion := do
  let isNameChar : Char → Bool := fun c => Text.isAsciiLetter c || c == '-'
  if !(← startsWith "\x7b") then return .wordBoundary ascii
  let start ← get
  advance
  if !isNameChar (← peek) then
    set start
    return .wordBoundary ascii
  let name ← takeSpaced isNameChar (← remaining)
  if (← peek) != '}' then failure
  drop 1
  match String.ofList name with
  | "start" => return .wordStart ascii
  | "end" => return .wordEnd ascii
  | "start-half" => return .wordStartHalf ascii
  | "end-half" => return .wordEndHalf ascii
  | _ => failure

/-- An escape, of which the backslash comes next. -/
def readEscape : Reader Escape := do
  drop 1
  let c ← peek
  let f := (← get).flags
  if c == 'x' || c == 'u' || c == 'U' then readHex c
  else if c == 'p' || c == 'P' then readProperty (c == 'P')
  else
    drop 1
    match perlSet? f.unicode c with
    | some s => return .set (if Text.lowerAscii c == c then s else s.complement)
    | none =>
      if isEscapable c then return .literal c.toNat
      match specialLetter? c with
      | some n => return .literal n
      | none =>
        match c with
        | 'A' => return .assertion .textStart
        | 'z' => return .assertion .textEnd
        | 'b' => return .assertion (← readBoundary (!f.unicode))
        | 'B' => return .assertion (.notWordBoundary (!f.unicode))
        | '<' => return .assertion (.wordStart (!f.unicode))
        | '>' => return .assertion (.wordEnd (!f.unicode))
        | _ => failure

/-- A member of a bracketed set that may be the end of a range, or a set. -/
inductive Member where
  | code (n : Nat)
  | set (s : CharSet)

def readMember : Reader Member := do
  if (← peek) == '\\' then
    match ← readEscape with
    | .literal n => return .code n
    | .byte n => return .code n
    | .set s => return .set s
    | .assertion _ => failure
  else
    let c ← peek
    drop 1
    skipSpace
    return .code c.toNat

/-- The character behind the next one, past space in verbose mode. -/
def peekSecond : Reader (Option Char) := do
  let s ← get
  let tail := s.rest.drop 1
  return (if s.flags.verbose then blanksAndComments tail.length tail else tail).head?

/-- One member or a range of them. -/
def readRange : Reader CharSet := do
  let first ← readMember
  skipSpace
  let c ← peek
  let second ← peekSecond
  if c != '-' || second == some ']' || second == some '-' then
    match first with
    | .code n => return .ofCode n
    | .set s => return s
  else
    advance
    match first, ← readMember with
    | .code a, .code b => if a ≤ b then return ⟨[(a, b)]⟩ else failure
    | _, _ => failure

/-- A bracketed class name, if there is one. -/
def readAsciiClass? : Reader (Option CharSet) := do
  let start ← get
  if !(← accept "[:") then return none
  let negated ← accept "^"
  let name ← takeWhile (· != ':')
  if !(← accept ":]") then
    set start
    return none
  match asciiClass? (String.ofList name) with
  | some s => return some (finishSet start.flags negated s)
  | none =>
    set start
    return none

inductive SetOp where
  | inter
  | diff
  | symmDiff

def SetOp.apply : SetOp → CharSet → CharSet → CharSet
  | inter, s, t => s.inter t
  | diff, s, t => s.diff t
  | symmDiff, s, t => s.symmDiff t

/-- A bracketed set that is being read: what stands left of the last operator, that operator, and
the union read since. -/
structure Operands where
  left : Option (CharSet × SetOp)
  union : List (Nat × Nat)
  /-- How deep the sets in it nest. -/
  depth : Nat

/-- Operands lose their case before they are combined. -/
def Operands.value (f : Flags) (o : Operands) : CharSet :=
  let right := CharSet.ofRanges o.union
  match o.left with
  | none => right
  | some (s, op) => op.apply s (finishSet f false right)

def Operands.push (f : Flags) (o : Operands) (op : SetOp) : Operands :=
  ⟨some (finishSet f false (o.value f), op), [], o.depth + 1⟩

/-- Hyphens, then a closing bracket, right behind the opening one stand for themselves. -/
def leadingMembers : Nat → Reader (List (Nat × Nat))
  | 0 => return []
  | fuel + 1 => do
    if (← peek) == '-' then
      advance
      return (45, 45) :: (← leadingMembers fuel)
    else return []

mutual

/-- The set from its opening bracket on, with its nesting depth. -/
def readSet : Nat → Reader (CharSet × Nat)
  | 0 => failure
  | fuel + 1 => do
    advance
    let negated := (← peek) == '^'
    if negated then advance
    let hyphens ← leadingMembers (← remaining)
    let bracket := hyphens.isEmpty && (← peek) == ']'
    if bracket then advance
    let first := if bracket then [(93, 93)] else hyphens
    let (s, depth) ← readOperands fuel ⟨none, first, 0⟩
    let f := (← get).flags
    return (finishSet f negated s, depth + 1)

def readOperands : Nat → Operands → Reader (CharSet × Nat)
  | 0, _ => failure
  | fuel + 1, o => do
    skipSpace
    let f := (← get).flags
    let c ← peek
    if c == '[' then
      match ← readAsciiClass? with
      | some s => readOperands fuel { o with union := s.ranges ++ o.union }
      | none =>
        let (s, depth) ← readSet fuel
        readOperands fuel { o with union := s.ranges ++ o.union, depth := max o.depth depth }
    else if c == ']' then
      drop 1
      return (o.value f, o.depth)
    else if ← accept "&&" then readOperands fuel (o.push f .inter)
    else if ← accept "--" then readOperands fuel (o.push f .diff)
    else if ← accept "~~" then readOperands fuel (o.push f .symmDiff)
    else
      let s ← readRange
      readOperands fuel { o with union := s.ranges ++ o.union }

end

/-- A set stands for characters only; without Unicode it may hold ASCII alone. -/
def setNode (f : Flags) (s : CharSet) : Reader Node :=
  if f.unicode || s.isAscii then pure (.set s) else failure

def literalNode (f : Flags) (n : Nat) : Node :=
  .set (if f.ignoreCase && (f.unicode || n < 128) then finishSet f false (.ofCode n)
    else .ofCode n)

def dotNode (f : Flags) : Reader Node :=
  if !f.unicode then failure
  else if f.dotAll then pure (.set .full)
  else if f.crlf then pure (.set (CharSet.complement ⟨[(10, 10), (13, 13)]⟩))
  else pure (.set (CharSet.ofCode 10).complement)

def startAssertion (f : Flags) : Assertion :=
  if f.multiLine then (if f.crlf then .lineStartCr else .lineStart) else .textStart

def endAssertion (f : Flags) : Assertion :=
  if f.multiLine then (if f.crlf then .lineEndCr else .lineEnd) else .textEnd

/-- A unit that is no group. -/
def readAtom : Reader Item := do
  let c ← peek
  let f := (← get).flags
  match c with
  | '\\' =>
    match ← readEscape with
    | .literal n => return leaf (literalNode f n)
    | .byte n => if f.unicode then return leaf (literalNode f n) else failure
    | .set s => return leaf (← setNode f s)
    | .assertion a => return leaf (.assertion a)
  | '.' =>
    drop 1
    return leaf (← dotNode f)
  | '^' =>
    drop 1
    return leaf (.assertion (startAssertion f))
  | '$' =>
    drop 1
    return leaf (.assertion (endAssertion f))
  | '[' =>
    let (s, depth) ← readSet (2 * (← remaining) + 2)
    return ⟨← setNode f s, depth, true⟩
  | _ =>
    drop 1
    return leaf (literalNode f c.toNat)

/-- Set or clear one flag, which may be named once. -/
def Flags.update (f : Flags) (value : Bool) (c : Char) : Option Flags :=
  match c with
  | 'i' => some { f with ignoreCase := value }
  | 'm' => some { f with multiLine := value }
  | 's' => some { f with dotAll := value }
  | 'U' => some { f with swapGreed := value }
  | 'u' => some { f with unicode := value }
  | 'R' => some { f with crlf := value }
  | 'x' => some { f with verbose := value }
  | _ => none

/-- Apply the letters of a flag group; a hyphen must have a letter behind it. -/
def Flags.applyAll (f : Flags) (value : Bool) (seen : List Char) : List Char → Option Flags
  | [] => if seen.head? == some '-' then none else some f
  | c :: rest =>
    if seen.contains c then none
    else if c == '-' then Flags.applyAll f false (c :: seen) rest
    else (f.update value c).bind fun g => Flags.applyAll g value (c :: seen) rest

def readFlags : Reader (Flags × Bool) := do
  let letters ← takeWhile fun c => c != ':' && c != ')'
  let f := (← get).flags
  let g ← (f.applyAll true [] letters).elim failure pure
  return (g, letters.isEmpty)

def isNameChar (first : Bool) (c : Char) : Bool :=
  c == '_' || Text.isAlphabetic c ||
    (!first && (Text.isAlphanumeric c || c == '.' || c == '[' || c == ']'))

/-- The name of a group up to the closing angle bracket; names do not repeat. -/
def readName : Reader Unit := do
  let name ← takeWhile (· != '>')
  if (← peek) != '>' then failure
  drop 1
  match name with
  | [] => failure
  | c :: rest =>
    if !(isNameChar true c && rest.all (isNameChar false)) then failure
    let s ← get
    if s.names.contains name then failure
    set { s with names := name :: s.names }

def newGroup : Reader Nat := do
  let s ← get
  set { s with groups := s.groups + 1 }
  return s.groups + 1

/-- A number of repetitions, with blanks around it. -/
def readCount? : Reader (Option Nat) := do
  let _ ← takeWhile Text.isBlank
  let digits ← takeSpaced Text.isAsciiDigit (← remaining)
  let _ ← takeWhile Text.isBlank
  skipSpace
  if digits.isEmpty then return none
  let n := Text.digitsValue digits
  if n < 2 ^ 32 then return some n else failure

/-- The bounds in braces. -/
def readBounds : Reader (Nat × Option Nat) := do
  advance
  let low ← readCount?
  let c ← peek
  let bounds ←
    if c == ',' then do
      advance
      if (← peek) == '}' then do
        pure ((← low.elim failure pure), none)
      else do
        let high ← readCount?
        pure ((← low.elim failure pure), some (← high.elim failure pure))
    else do
      let n ← low.elim failure pure
      pure (n, some n)
  if (← peek) != '}' then failure
  drop 1
  skipSpace
  match bounds with
  | (a, some b) => if a ≤ b then return bounds else failure
  | _ => return bounds

/-- Repeat a unit as often as the operator that comes next says. -/
def readRepetition (item : Item) (c : Char) : Reader Item := do
  if !item.repeatable then failure
  let (min, max) ←
    match c with
    | '*' => do
      drop 1
      pure (0, none)
    | '+' => do
      drop 1
      pure (1, none)
    | '?' => do
      drop 1
      pure (0, some 1)
    | _ => readBounds
  let lazy ← accept "?"
  let f := (← get).flags
  return ⟨.repeat item.node min max (lazy == f.swapGreed), item.depth + 1, true⟩

/-- One branch from its units, which stand back to front. -/
def branchOf (items : List Item) : Item :=
  match items with
  | [] => ⟨.empty, 0, false⟩
  | [item] => item
  | _ => ⟨.ofItems (items.reverse.map (·.node)), (items.map (·.depth)).foldl max 0 + 1, true⟩

def isLookaround : Reader Bool := do
  return (← startsWith "?=") || (← startsWith "?!") || (← startsWith "?<=") || (← startsWith "?<!")

mutual

/-- Branches up to the end of the group or of the pattern; the units of the branch being read
and the finished branches stand back to front. -/
def readBranches : Nat → List Item → List Item → Reader Item
  | 0, _, _ => failure
  | fuel + 1, branches, items => do
    skipSpace
    match ← peek? with
    | some '|' =>
      drop 1
      readBranches fuel (branchOf items :: branches) []
    | some '(' =>
      let item ← readGroup fuel
      readBranches fuel branches (item :: items)
    | some c =>
      if c == ')' then finish branches items
      else if c == '*' || c == '+' || c == '?' || c == '{' then
        match items with
        | [] => failure
        | item :: before =>
          let repeated ← readRepetition item c
          readBranches fuel branches (repeated :: before)
      else
        let item ← readAtom
        readBranches fuel branches (item :: items)
    | none => finish branches items

def finish (branches items : List Item) : Reader Item := do
  let all := branchOf items :: branches
  match all with
  | [item] => return item
  | _ =>
    return ⟨.ofBranches (all.reverse.map (·.node)), (all.map (·.depth)).foldl max 0 + 1, true⟩

/-- A group, or flags for the rest of the group around them. -/
def readGroup : Nat → Reader Item
  | 0 => failure
  | fuel + 1 => do
    let outer := (← get).flags
    drop 1
    skipSpace
    if ← isLookaround then failure
    if (← accept "?P<") || (← accept "?<") then
      let index ← newGroup
      readName
      readBody fuel outer outer (.group index)
    else if ← accept "?" then
      let (inner, none?) ← readFlags
      let c ← peek
      if c == ')' then
        if none? then failure
        drop 1
        modify fun s => { s with flags := inner }
        return ⟨.empty, 0, false⟩
      else
        drop 1
        readBody fuel outer inner id
    else
      let index ← newGroup
      readBody fuel outer outer (.group index)

/-- The branches of a group and its closing parenthesis. -/
def readBody : Nat → Flags → Flags → (Node → Node) → Reader Item
  | 0, _, _, _ => failure
  | fuel + 1, outer, inner, wrap => do
    modify fun s => { s with flags := inner }
    let body ← readBranches fuel [] []
    if (← peek) != ')' then failure
    drop 1
    modify fun s => { s with flags := outer }
    return ⟨wrap body.node, body.depth + 1, true⟩

end

/-- The tree of a pattern that the engine holds. -/
def Node.ofPattern? [Engine] (ignoreCase : Bool) (pattern : String) : Option Node :=
  let flags := { Flags.standard with ignoreCase := ignoreCase }
  let cs := pattern.toList
  match (readBranches (4 * cs.length + 4) [] []).run ⟨cs, flags, 0, []⟩ with
  | some (item, s) =>
    if s.rest.isEmpty && item.depth ≤ depthLimit && Engine.holds item.node then
      some item.node
    else none
  | none => none

end Estate.Regex
