import Estate.Text.Category
import Estate.Text.Integer
import Estate.Text.Table

/-!
The tokens of style sheets: names, texts, numbers and signs, with everything between brackets as
one token.
-/

namespace Estate.Selector

inductive Token where
  | name (s : String)
  /-- A name that was not fit to be a name of its own is no identifier. -/
  | hash (s : String) (isIdentifier : Bool)
  | text (s : String)
  /-- A number without a fraction, whether it has a sign, and its unit. -/
  | integer (n : Int) (signed : Bool) (unit : String)
  | blank
  | sign (c : Char)
  /-- A sign with an equals sign behind it. -/
  | test (c : Char)
  /-- What stands in brackets, with the bracket that opens them and a name before it. -/
  | block (name : Option String) (opening : Char) (content : List Token)
  | other
  | fault

def isSpace (c : Char) : Bool :=
  c == ' ' || c == '\t' || c == '\n' || c == '\r' || c == '\x0c'

def isLineEnd (c : Char) : Bool := c == '\n' || c == '\r' || c == '\x0c'

def isNameStart (c : Char) : Bool :=
  Text.isAsciiLetter c || c == '_' || c.toNat ≥ 128 || c == '\x00'

def isNameChar (c : Char) : Bool := isNameStart c || Text.isAsciiDigit c || c == '-'

/-- The character behind a backslash and how many characters it is written in. -/
def escaped (cs : List Char) : Char × Nat :=
  match cs with
  | [] => ('\ufffd', 0)
  | c :: _ =>
    let digits := (cs.take 6).takeWhile fun d => (Text.hexDigit? d).isSome
    if digits.isEmpty then (c, 1)
    else
      let n := Text.ofHex digits
      let shown := if n == 0 || n > 0x10FFFF || (0xD800 ≤ n && n ≤ 0xDFFF) then '\ufffd'
        else Char.ofNat n
      let space := match cs.drop digits.length with
        | '\r' :: '\n' :: _ => 2
        | d :: _ => if isSpace d then 1 else 0
        | [] => 0
      (shown, digits.length + space)

def startsEscape : List Char → Bool
  | '\\' :: c :: _ => !isLineEnd c
  | ['\\'] => true
  | _ => false

def startsName : List Char → Bool
  | '-' :: '-' :: _ => true
  | '-' :: c :: cs => isNameStart c || startsEscape (c :: cs)
  | c :: cs => isNameStart c || startsEscape (c :: cs)
  | [] => false

/-- The name at the start of a text, and how many characters it is written in. The first characters
may have been read already. -/
def nameFrom (skip : Nat) : List Char → List Char × Nat
  | [] => ([], 0)
  | c :: cs =>
    match skip with
    | n + 1 =>
      let (name, size) := nameFrom n cs
      (name, size + 1)
    | 0 =>
      if c == '\\' && startsEscape (c :: cs) then
        let (shown, taken) := escaped cs
        let (name, size) := nameFrom taken cs
        (shown :: name, size + 1)
      else if isNameChar c then
        let (name, size) := nameFrom 0 cs
        ((if c == '\x00' then '\ufffd' else c) :: name, size + 1)
      else ([], 0)

/-- A text up to its closing quote, which the end of all may stand for, and how many characters it is
written in. A line end is a fault. -/
def quotedFrom (quote : Char) (skip : Nat) : List Char → Option (List Char × Nat)
  | [] => some ([], 0)
  | c :: cs =>
    let grow (shown : List Char) (skip : Nat) : Option (List Char × Nat) :=
      (quotedFrom quote skip cs).map fun (text, size) => (shown ++ text, size + 1)
    match skip with
    | n + 1 => grow [] n
    | 0 =>
      if c == quote then some ([], 1)
      else if isLineEnd c then none
      else if c == '\\' then
        match cs with
        | [] => some ([], 1)
        | '\r' :: '\n' :: _ => grow [] 2
        | d :: _ =>
          if isLineEnd d then grow [] 1
          else
            let (shown, taken) := escaped cs
            grow [shown] taken
      else grow [if c == '\x00' then '\ufffd' else c] 0

/-- How many characters a number at the start takes up, and the number if it has no fraction and no
exponent. -/
def numberAt (cs : List Char) : Option (Nat × Option Int) :=
  let signed := cs.head? == some '+' || cs.head? == some '-'
  let body := if signed then cs.tail else cs
  let whole := body.takeWhile Text.isAsciiDigit
  let rest := body.drop whole.length
  let fraction := match rest with
    | '.' :: d :: _ => if Text.isAsciiDigit d then (rest.tail.takeWhile Text.isAsciiDigit).length + 1 else 0
    | _ => 0
  let exponent := match rest.drop fraction with
    | e :: tail =>
      let digits := if tail.head? == some '+' || tail.head? == some '-' then tail.tail else tail
      let count := (digits.takeWhile Text.isAsciiDigit).length
      if (e == 'e' || e == 'E') && count > 0 then 1 + (tail.length - digits.length) + count else 0
    | [] => 0
  if whole.isEmpty && fraction == 0 then none
  else
    let size := (if signed then 1 else 0) + whole.length + fraction + exponent
    let n : Int := Text.digitsValue whole
    some (size,
      if fraction == 0 && exponent == 0 then some (if cs.head? == some '-' then -n else n) else none)

/-- A piece of a style sheet before brackets are matched. -/
inductive Piece where
  | token (t : Token)
  | opening (name : Option String) (c : Char)
  | closing (c : Char)

/-- The piece at the start of a text, and how many characters it takes up. -/
def pieceAt (cs : List Char) : Piece × Nat :=
  let sign (c : Char) : Piece × Nat :=
    match cs.drop 1 with
    | '=' :: _ => if "~|^$*".toList.contains c then (.token (.test c), 2) else (.token (.sign c), 1)
    | _ => (.token (.sign c), 1)
  match cs with
  | [] => (.token .blank, 0)
  | c :: rest =>
    if isSpace c then (.token .blank, (cs.takeWhile isSpace).length)
    else if c == '"' || c == '\'' then
      match quotedFrom c 0 rest with
      | some (text, size) => (.token (.text (.ofList text)), size + 1)
      | none => (.token .fault, cs.length)
    else if c == '#' && (rest.head?.any isNameChar || startsEscape rest) then
      let (name, size) := nameFrom 0 rest
      (.token (.hash (.ofList name) (startsName rest)), size + 1)
    else if (numberAt cs).isSome then
      let (size, value) := (numberAt cs).getD (1, none)
      let behind := cs.drop size
      let (unit, unitSize) := if startsName behind then nameFrom 0 behind else ([], 0)
      match value with
      | some n => (.token (.integer n (c == '+' || c == '-') (.ofList unit)), size + unitSize)
      | none => (.token .other, size + unitSize)
    else if cs.take 3 == "-->".toList then (.token .other, 3)
    else if cs.take 4 == "<!--".toList then (.token .other, 4)
    else if startsName cs then
      let (name, size) := nameFrom 0 cs
      if (cs.drop size).head? == some '(' then (.opening (some (.ofList name)) '(', size + 1)
      else (.token (.name (.ofList name)), size)
    else if c == '(' || c == '[' || c == '\x7b' then (.opening none c, 1)
    else if c == ')' then (.closing '(', 1)
    else if c == ']' then (.closing '[', 1)
    else if c == '\x7d' then (.closing '\x7b', 1)
    else if c == '@' && startsName rest then (.token .other, (nameFrom 0 rest).2 + 1)
    else sign c

/-- How many characters a comment at the start takes up. -/
def commentSize : List Char → Nat
  | '/' :: '*' :: cs =>
    let rec close : List Char → Nat
      | '*' :: '/' :: _ => 2
      | _ :: cs => close cs + 1
      | [] => 0
    close cs + 2
  | _ => 0

/-- All pieces of a text, of which some characters have been read already. -/
def pieces (skip : Nat) : List Char → List Piece
  | [] => []
  | c :: cs =>
    match skip with
    | n + 1 => pieces n cs
    | 0 =>
      match commentSize (c :: cs) with
      | n + 1 => pieces n cs
      | 0 =>
        let (piece, size) := pieceAt (c :: cs)
        piece :: pieces (size - 1) cs

/-- Brackets that are still open: what stands before each, back to front, its name and its sign. -/
abbrev Open := List (List Token × Option String × Char)

/-- Match brackets. The end of all closes what is open, and a bracket that closes nothing is a
fault. -/
def nest (done : List Token) (outer : Open) : List Piece → List Token
  | [] => outer.foldl (fun inner (before, name, c) => before.reverse ++ [.block name c inner])
      done.reverse
  | .token t :: ps => nest (t :: done) outer ps
  | .opening name c :: ps => nest [] ((done, name, c) :: outer) ps
  | .closing c :: ps =>
    match outer with
    | (before, name, d) :: outer' =>
      if c == d then nest (.block name d done.reverse :: before) outer' ps
      else nest (.fault :: done) outer ps
    | [] => nest (.fault :: done) outer ps

def Token.ofText (s : String) : List Token := nest [] [] (pieces 0 s.toList)

end Estate.Selector
