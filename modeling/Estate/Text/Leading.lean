import Estate.Binary64.Text
import Estate.Text.Blank
import Estate.Text.Integer

/-!
The number that a text starts with, zero when it starts with none. Digits of any writing system
belong to the number, but only ASCII digits can be read.
-/

namespace Estate.Text

/-- An optional sign at the start of a text, and the rest. -/
def spanSign : List Char → List Char × List Char
  | '+' :: rest => (['+'], rest)
  | '-' :: rest => (['-'], rest)
  | cs => ([], cs)

/-- The integer in front, zero if there is none or it does not fit 64 bits. -/
def leadingInt (cs : List Char) : Int :=
  let (sign, body) := spanSign (trim cs)
  (int64? (sign ++ body.takeWhile isDecimalDigit)).getD 0

/-- An exponent mark with digits behind it at the start of a text. -/
def exponentPart (cs : List Char) : List Char :=
  match cs with
  | c :: rest =>
    let (sign, body) := spanSign rest
    let digits := body.takeWhile isDecimalDigit
    if (c == 'e' || c == 'E') && !digits.isEmpty then c :: (sign ++ digits) else []
  | [] => []

/-- The characters of the decimal number in front. -/
def decimalPart (cs : List Char) : List Char :=
  let (sign, body) := spanSign cs
  let (whole, rest) := body.span isDecimalDigit
  match rest with
  | '.' :: more =>
    let (digits, tail) := more.span isDecimalDigit
    if whole.isEmpty && digits.isEmpty then []
    else sign ++ whole ++ '.' :: digits ++ exponentPart tail
  | _ => if whole.isEmpty then [] else sign ++ whole ++ exponentPart rest

/-- The decimal number in front, zero if there is none or it is too great. -/
def leadingFloat (cs : List Char) : Binary64 :=
  ((Binary64.literal? (decimalPart (trim cs))).bind (·.toBinary64?)).getD .zero

end Estate.Text
