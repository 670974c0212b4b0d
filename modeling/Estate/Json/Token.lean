import Estate.Json.Number
import Estate.Text.Table

/-!
The tokens of a JSON text, found in one pass over its characters.
-/

namespace Estate.Json

/-- A token. A number too great for a double has no value, a text with half a surrogate pair in it
no content. -/
inductive Token where
  | openBrace
  | closeBrace
  | openBracket
  | closeBracket
  | colon
  | comma
  | null
  | bool (b : Bool)
  | number (n : Option Number)
  | text (s : Option String)

/-- A character of a text, or a 16-bit unit written by an escape. -/
inductive Piece where
  | char (c : Char)
  | unit (n : Nat)

/-- Put units together to characters; a high and a low surrogate make one. -/
def joinPieces : List Piece → Option (List Char)
  | [] => some []
  | .char c :: rest => (joinPieces rest).map (c :: ·)
  | .unit n :: rest =>
    if n < 0xD800 || 0xE000 ≤ n then (joinPieces rest).map (Char.ofNat n :: ·)
    else if 0xDC00 ≤ n then none
    else match rest with
      | .unit m :: more =>
        if 0xDC00 ≤ m && m < 0xE000 then
          (joinPieces more).map (Char.ofNat (0x10000 + (n - 0xD800) * 1024 + (m - 0xDC00)) :: ·)
        else none
      | _ => none

/-- Where the pass stands: between tokens, or inside one, with what is read of it back to front. -/
inductive Mode where
  | gap
  | text (read : List Piece)
  | escape (read : List Piece)
  | unicode (read : List Piece) (digits : List Char)
  | number (read : List Char)
  | word (read : List Char)

structure Scan where
  tokens : List Token
  mode : Mode

def isGap (c : Char) : Bool := c == ' ' || c == '\t' || c == '\n' || c == '\r'

def isNumberChar (c : Char) : Bool :=
  Text.isAsciiDigit c || c == '-' || c == '+' || c == '.' || c == 'e' || c == 'E'

def wordToken? (cs : List Char) : Option Token :=
  if cs == "null".toList then some .null
  else if cs == "true".toList then some (.bool true)
  else if cs == "false".toList then some (.bool false)
  else none

/-- The token that a character begins or is, between tokens. -/
def Scan.start (s : Scan) (c : Char) : Option Scan :=
  let punctuation (t : Token) : Option Scan := some ⟨t :: s.tokens, .gap⟩
  if isGap c then some { s with mode := .gap }
  else match c with
    | '{' => punctuation .openBrace
    | '}' => punctuation .closeBrace
    | '[' => punctuation .openBracket
    | ']' => punctuation .closeBracket
    | ':' => punctuation .colon
    | ',' => punctuation .comma
    | '"' => some { s with mode := .text [] }
    | _ =>
      if Text.isAsciiDigit c || c == '-' then some { s with mode := .number [c] }
      else if 'a' ≤ c && c ≤ 'z' then some { s with mode := .word [c] }
      else none

/-- Close the number or word that the pass is in. -/
def Scan.settle (s : Scan) : Option Scan :=
  match s.mode with
  | .gap => some s
  | .number read => (Lexeme.ofChars? read.reverse).map fun l => ⟨.number l.number? :: s.tokens, .gap⟩
  | .word read => (wordToken? read.reverse).map fun t => ⟨t :: s.tokens, .gap⟩
  | _ => none

def simpleEscape? (c : Char) : Option Char :=
  match c with
  | '"' => some '"'
  | '\\' => some '\\'
  | '/' => some '/'
  | 'b' => some '\x08'
  | 'f' => some '\x0c'
  | 'n' => some '\n'
  | 'r' => some '\r'
  | 't' => some '\t'
  | _ => none

def Scan.step (s : Scan) (c : Char) : Option Scan :=
  match s.mode with
  | .gap => s.start c
  | .text read =>
    if c == '"' then
      some ⟨.text ((joinPieces read.reverse).map String.ofList) :: s.tokens, .gap⟩
    else if c == '\\' then some { s with mode := .escape read }
    else if c.toNat < 32 then none
    else some { s with mode := .text (.char c :: read) }
  | .escape read =>
    if c == 'u' then some { s with mode := .unicode read [] }
    else (simpleEscape? c).map fun d => { s with mode := .text (.char d :: read) }
  | .unicode read digits =>
    if (Text.hexDigit? c).isNone then none
    else if digits.length < 3 then some { s with mode := .unicode read (c :: digits) }
    else some { s with mode := .text (.unit (Text.ofHex (c :: digits).reverse) :: read) }
  | .number read =>
    if isNumberChar c then some { s with mode := .number (c :: read) }
    else s.settle.bind (·.start c)
  | .word read =>
    if 'a' ≤ c && c ≤ 'z' then some { s with mode := .word (c :: read) }
    else s.settle.bind (·.start c)

def tokens? (cs : List Char) : Option (List Token) :=
  ((cs.foldlM Scan.step ⟨[], .gap⟩).bind Scan.settle).map fun s => s.tokens.reverse

end Estate.Json
