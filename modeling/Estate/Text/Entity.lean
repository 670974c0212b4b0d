import Estate.Text.Category
import Estate.Text.Integer
import Estate.Text.Table

/-!
Decoding of character references in one pass: what a reference decodes to is not read again.
-/

namespace Estate.Text

/-- The character with a code, unless the code is a surrogate or too great. -/
def charOfCode? (n : Nat) : Option Char :=
  if n < 0xD800 || (0xE000 ≤ n && n < 0x110000) then some (Char.ofNat n) else none

def namedReferences : List (List Char × Char) :=
  [("amp", '&'), ("lt", '<'), ("gt", '>'), ("quot", '"'), ("apos", '\''), ("nbsp", ' '),
    ("euro", '€'), ("pound", '£')].map fun (name, c) => (name.toList, c)

/-- A reference between its ampersand and its semicolon. -/
inductive Reference where
  | code (n : Nat)
  | name (cs : List Char)

/-- One to seven decimal digits or one to six hexadecimal ones after a number sign, or a letter
and up to 31 letters and digits. -/
def reference? (body : List Char) : Option Reference :=
  match body with
  | '#' :: c :: digits =>
    if c == 'x' || c == 'X' then
      if 1 ≤ digits.length && digits.length ≤ 6 && digits.all (fun d => (hexDigit? d).isSome) then
        some (.code (ofHex digits))
      else none
    else if digits.length ≤ 6 && (c :: digits).all isAsciiDigit then
      some (.code (digitsValue (c :: digits)))
    else none
  | c :: rest =>
    if isAsciiLetter c && 1 ≤ rest.length && rest.length ≤ 31 && rest.all isAsciiAlphanumeric then
      some (.name body)
    else none
  | [] => none

/-- A reference to no character, or with an unknown name, stands for nothing. -/
def Reference.decode : Reference → List Char
  | .code n => (charOfCode? n).toList
  | .name cs => (namedReferences.lookup cs).toList

/-- The reference at the start of a text, after its ampersand, with the length of its body. -/
def referenceAt? (cs : List Char) : Option (Reference × Nat) :=
  let body := cs.takeWhile (· != ';')
  if body.length < cs.length then (reference? body).map fun r => (r, body.length) else none

/-- Decode a text of which the first `skip` characters belong to a reference already decoded. -/
def decodeFrom : Nat → List Char → List Char
  | _, [] => []
  | skip + 1, _ :: cs => decodeFrom skip cs
  | 0, c :: cs =>
    if c == '&' then
      match referenceAt? cs with
      | some (r, n) => r.decode ++ decodeFrom (n + 1) cs
      | none => c :: decodeFrom 0 cs
    else c :: decodeFrom 0 cs

def decodeReferences (cs : List Char) : List Char := decodeFrom 0 cs

end Estate.Text
