import Estate.Binary64.Text
import Estate.Text.Category
import Estate.Text.Replace

/-!
The tokens of scripts, and the blanks and comments between them.
-/

namespace Estate.Script

inductive Token where
  /-- A name or a keyword. -/
  | word (s : String)
  | privateName
  /-- Nothing stands for a number too great. -/
  | number (x : Option Binary64)
  | bigInteger
  /-- Nothing stands for a text with half a surrogate pair. -/
  | text (s : Option String)
  | sign (s : String)
  | finish
  | fault
deriving DecidableEq

def Token.isWord : Token → Bool
  | word _ => true
  | _ => false

def isLineEnd (c : Char) : Bool := c == '\n' || c == '\r' || c == '\u2028' || c == '\u2029'

def isSpace (c : Char) : Bool :=
  [' ', '\t', '\x0b', '\x0c', '\ufeff'].contains c || (c.toNat ≥ 128 && Text.category c == .zs)

/-- What is being passed over between two tokens. -/
inductive Gap where
  | blank
  | lineComment
  | blockComment

/-- The text at the next token, and whether a line end comes before it. A comment that is not closed
goes up to the end of the script. A comment up to the end of the line also starts with the marks
that hide a script from old readers, the closing one only at the start of a line. -/
def skipGap (gap : Gap) (fresh : Bool) : List Char → Bool × List Char
  | [] => (fresh, [])
  | c :: cs =>
    match gap with
    | .blank =>
      if isLineEnd c then skipGap .blank true cs
      else if isSpace c then skipGap .blank fresh cs
      else if c == '/' && cs.head? == some '/' then skipGap .lineComment fresh cs
      else if c == '/' && cs.head? == some '*' then
        match cs with
        | _ :: cs => skipGap .blockComment fresh cs
        | [] => (fresh, [])
      else if c == '<' && cs.take 3 == ['!', '-', '-'] then skipGap .lineComment fresh cs
      else if c == '-' && fresh && cs.take 2 == ['-', '>'] then skipGap .lineComment fresh cs
      else (fresh, c :: cs)
    | .lineComment => skipGap (if isLineEnd c then .blank else .lineComment) (fresh || isLineEnd c) cs
    | .blockComment =>
      match c, cs with
      | '*', '/' :: cs => skipGap .blank fresh cs
      | _, cs => skipGap .blockComment (fresh || isLineEnd c) cs

/-! ### Names -/

def isNameStart (c : Char) : Bool :=
  Text.isAsciiLetter c || c == '$' || c == '_' ||
    (c.toNat ≥ 128 && ((Text.category c).isLetter || Text.category c == .nl))

def isNamePart (c : Char) : Bool :=
  isNameStart c || Text.isAsciiDigit c || c == '\u200c' || c == '\u200d' ||
    (c.toNat ≥ 128 && [.mn, .mc, .nd, .pc].contains (Text.category c))

/-- The code behind a backslash and the letter u, and how many characters it takes up. -/
def unicodeEscape? (cs : List Char) : Option (Nat × Nat) :=
  match cs with
  | '\x7b' :: rest =>
    let digits := rest.takeWhile fun c => (Text.hexDigit? c).isSome
    if !digits.isEmpty && (rest.drop digits.length).head? == some '\x7d' &&
        Text.ofHex digits ≤ 0x10FFFF then some (Text.ofHex digits, digits.length + 2)
    else none
  | _ =>
    let digits := cs.take 4
    if digits.length == 4 && digits.all fun c => (Text.hexDigit? c).isSome then
      some (Text.ofHex digits, 4)
    else none

/-- The characters of a name, and how many characters it is written in; escapes stand for what they
name. -/
def nameFrom (skip : Nat) : List Char → List Char × Nat
  | [] => ([], 0)
  | c :: cs =>
    let grow (shown : List Char) (skip : Nat) : List Char × Nat :=
      let (name, size) := nameFrom skip cs
      (shown ++ name, size + 1)
    match skip with
    | n + 1 => grow [] n
    | 0 =>
      if isNamePart c then grow [c] 0
      else if c == '\\' && cs.head? == some 'u' then
        match unicodeEscape? (cs.drop 1) with
        | some (n, size) => if isNamePart (Char.ofNat n) then grow [Char.ofNat n] (size + 1) else ([], 0)
        | none => ([], 0)
      else ([], 0)

/-! ### Numbers -/

def ofNat? (n : Nat) : Option Binary64 := Binary64.ofFraction? false n 1

def digitsIn (base : Nat) (cs : List Char) : List Char :=
  cs.takeWhile fun c => c == '_' || (Text.hexDigit? c).any (· < base)

def valueIn (base : Nat) (digits : List Char) : Nat :=
  (digits.filterMap Text.hexDigit?).foldl (fun n d => n * base + d) 0

/-- A number in decimal: its text without separators, and how many characters it is written in. -/
def decimalAt (cs : List Char) : List Char × Nat :=
  let whole := digitsIn 10 cs
  let rest := cs.drop whole.length
  let fraction := match rest with
    | '.' :: more => '.' :: digitsIn 10 more
    | _ => []
  let exponent := match rest.drop fraction.length with
    | e :: more =>
      let mark := more.takeWhile fun c => c == '+' || c == '-'
      let digits := digitsIn 10 (more.drop mark.length)
      if (e == 'e' || e == 'E') && mark.length ≤ 1 && !digits.isEmpty then e :: (mark ++ digits)
      else []
    | [] => []
  let all := whole ++ fraction ++ exponent
  (all.filter (· != '_'), all.length)

/-- A number starts here; a leading zero may make it octal. -/
def numberAt (cs : List Char) : Token × Nat :=
  let based (base : Nat) (digits : List Char) : Token × Nat :=
    let behind := cs.drop (2 + digits.length)
    if digits.isEmpty then (.fault, 2)
    else if behind.head? == some 'n' then (.bigInteger, digits.length + 3)
    else (.number (ofNat? (valueIn base digits)), digits.length + 2)
  match cs with
  | '0' :: 'x' :: rest | '0' :: 'X' :: rest => based 16 (digitsIn 16 rest)
  | '0' :: 'o' :: rest | '0' :: 'O' :: rest => based 8 (digitsIn 8 rest)
  | '0' :: 'b' :: rest | '0' :: 'B' :: rest => based 2 (digitsIn 2 rest)
  | _ =>
    let whole := cs.takeWhile Text.isAsciiDigit
    if whole.length > 1 && whole.head? == some '0' && whole.all (· < '8') then
      (.number (ofNat? (valueIn 8 whole)), whole.length)
    else
      let (digits, size) := decimalAt cs
      if (cs.drop size).head? == some 'n' && digits.all Text.isAsciiDigit then (.bigInteger, size + 1)
      else (.number ((Binary64.literal? digits).bind (·.toBinary64?)), size)

/-! ### Texts -/

/-- A text from its codes; half a surrogate pair makes it no text. -/
def ofCodes? : List Nat → Option (List Char)
  | [] => some []
  | [n] => if 0xD800 ≤ n && n < 0xE000 then none else some [Char.ofNat n]
  | n :: low :: rest =>
    if 0xD800 ≤ n && n < 0xDC00 && 0xDC00 ≤ low && low < 0xE000 then
      (ofCodes? rest).map (Char.ofNat (0x10000 + (n - 0xD800) * 1024 + (low - 0xDC00)) :: ·)
    else if 0xD800 ≤ n && n < 0xE000 then none
    else (ofCodes? (low :: rest)).map (Char.ofNat n :: ·)

/-- The codes an escape stands for, and how many characters it takes up behind its backslash. -/
def escape? (cs : List Char) : Option (List Nat × Nat) :=
  let one (c : Char) : Option (List Nat × Nat) := some ([c.toNat], 1)
  match cs with
  | [] => some ([], 0)
  | '\r' :: '\n' :: _ => some ([], 2)
  | c :: rest =>
    match c with
    | 'n' => one '\n'
    | 't' => one '\t'
    | 'r' => one '\r'
    | 'b' => one '\x08'
    | 'v' => one '\x0b'
    | 'f' => one '\x0c'
    | 'x' =>
      let digits := rest.take 2
      if digits.length == 2 && digits.all fun d => (Text.hexDigit? d).isSome then
        some ([Text.ofHex digits], 3)
      else none
    | 'u' => (unicodeEscape? rest).map fun (n, size) => ([n], size + 1)
    | _ =>
      if isLineEnd c then some ([], 1)
      else if '0' ≤ c && c ≤ '7' then
        let digits := (cs.take (if c ≤ '3' then 3 else 2)).takeWhile fun d => '0' ≤ d && d ≤ '7'
        some ([valueIn 8 digits], digits.length)
      else one c

/-- The escape behind a backslash in a template stands for something. Octal ones do not, but for
zero by itself. -/
def templateEscapeHolds (cs : List Char) : Bool :=
  match cs with
  | '0' :: rest => !rest.head?.any fun d => '0' ≤ d && d ≤ '7'
  | c :: _ => !('1' ≤ c && c ≤ '7') && (escape? cs).isSome
  | [] => true

/-- The codes of a text up to its quote, and how many characters it is written in. A line end or the
end of the script also ends it. -/
def textFrom (quote : Char) (skip : Nat) : List Char → Option (List Nat × Nat)
  | [] => some ([], 0)
  | c :: cs =>
    let grow (codes : List Nat) (skip : Nat) : Option (List Nat × Nat) :=
      (textFrom quote skip cs).map fun (more, size) => (codes ++ more, size + 1)
    match skip with
    | n + 1 => grow [] n
    | 0 =>
      if c == quote then some ([], 1)
      else if c == '\n' || c == '\r' then some ([], 0)
      else if c == '\\' then (escape? cs).bind fun (codes, size) => grow codes size
      else grow [c.toNat] 0

/-! ### Signs -/

/-- All signs, the longer ones first. -/
def signs : List String :=
  [">>>=", "...", "===", "!==", "**=", "<<=", ">>=", ">>>", "&&=", "||=", "??=", "=>", "==", "!=",
    "<=", ">=", "&&", "||", "??", "?.", "++", "--", "+=", "-=", "*=", "/=", "%=", "&=", "|=", "^=",
    "<<", ">>", "**", "\x7b", "\x7d", "(", ")", "[", "]", ";", ",", "<", ">", "+", "-", "*", "/", "%",
    "&", "|", "^", "!", "~", "?", ":", "=", ".", "`"]

/-- The sign at the start of a text. A question mark before a fraction stands alone. -/
def signAt? (cs : List Char) : Option String :=
  signs.find? fun s =>
    match Text.after? s.toList cs with
    | some rest => !(s == "?." && rest.head?.any Text.isAsciiDigit)
    | none => false

/-- The token at the start of a text, and how many characters it takes up. -/
def tokenAt (cs : List Char) : Token × Nat :=
  match cs with
  | [] => (.finish, 0)
  | c :: rest =>
    if c == '"' || c == '\'' then
      match textFrom c 0 rest with
      | some (codes, size) => (.text ((ofCodes? codes).map String.ofList), size + 1)
      | none => (.fault, cs.length)
    else if Text.isAsciiDigit c || (c == '.' && rest.head?.any Text.isAsciiDigit) then
      let (token, size) := numberAt cs
      if (cs.drop size).head?.any isNameStart then (.fault, size) else (token, size)
    else if isNameStart c || c == '\\' then
      let (name, size) := nameFrom 0 cs
      if name.isEmpty then (.fault, 1) else (.word (.ofList name), size)
    else if c == '#' && rest.head?.any isNameStart then (.privateName, (nameFrom 0 rest).2 + 1)
    else match signAt? cs with
      | some s => (.sign s, s.length)
      | none => (.fault, 1)

/-- How many characters a regular expression takes up, the first slash left out. -/
def patternSize (inClass : Bool) : List Char → Option Nat
  | [] => none
  | '\\' :: c :: cs => if isLineEnd c then none else (patternSize inClass cs).map (· + 2)
  | c :: cs =>
    if isLineEnd c then none
    else if c == '/' && !inClass then some (1 + (cs.takeWhile isNamePart).length)
    else (patternSize (c == '[' || (inClass && c != ']')) cs).map (· + 1)

/-- A place in a script: the next token, whether a line end comes before it, and the text from the
token on and behind it. -/
structure Cursor where
  token : Token
  fresh : Bool
  here : List Char
  rest : List Char

/-- The place at the next token of a text. -/
def Cursor.at (fresh : Bool) (cs : List Char) : Cursor :=
  let (fresh, cs) := skipGap .blank fresh cs
  let (token, size) := tokenAt cs
  ⟨token, fresh, cs, cs.drop size⟩

def Cursor.next (c : Cursor) : Cursor := .at false c.rest

/-- The place behind a regular expression that starts here. -/
def Cursor.afterPattern? (c : Cursor) : Option Cursor :=
  (patternSize false (c.here.drop 1)).map fun size => .at false (c.here.drop (size + 1))

/-- The first token of a script, behind a line that names its interpreter. -/
def Cursor.start (s : String) : Cursor :=
  let cs := s.toList
  let cs := if cs.take 2 == ['#', '!'] then cs.dropWhile (!isLineEnd ·) else cs
  .at true cs

end Estate.Script
