import Estate.Binary64.Basic
import Estate.Text.Blank
import Estate.Text.Case
import Estate.Text.Category
import Estate.Text.Integer
import Estate.Text.Replace

/-!
Prices in minor units, and the currencies named in a text. Where a text has both commas and points,
the last of them is the decimal separator; a single kind of separator groups thousands.
-/

namespace Estate

structure Price where
  cents : Int
  currency : String
  display : String
deriving DecidableEq

namespace Price

/-- Currency signs with the codes they stand for, in the order they are looked for. -/
def signs : List (Char × String) := [('$', "USD"), ('£', "GBP"), ('€', "EUR"), ('₹', "INR")]

def codes : List String := ["USD", "EUR", "GBP", "INR"]

/-- The word occurs with no ASCII letter next to it. -/
def standsAlone (word : List Char) : Option Char → List Char → Bool
  | _, [] => false
  | before, c :: cs =>
    let here := match Text.after? word (c :: cs) with
      | some rest => !before.any Text.isAsciiLetter && !rest.head?.any Text.isAsciiLetter
      | none => false
    here || standsAlone word (some c) cs

/-- The currency a text names by a sign, else by a code. -/
def currencyIn? (s : String) : Option String :=
  match signs.find? fun sign => s.toList.contains sign.1 with
  | some sign => some sign.2
  | none =>
    let raised := s.toList.map Text.upperAscii
    codes.find? fun code => standsAlone code.toList none raised

/-- The sign of a currency, or its code if it has none. -/
def signOf (code : String) : String :=
  match signs.find? fun sign => Text.sameIgnoringAsciiCase sign.2 code with
  | some sign => sign.1.toString
  | none => code

/-- The text after the last separator, when both kinds occur, and the text before it. -/
def splitDecimals (kept : List Char) : List Char × List Char :=
  if kept.contains ',' && kept.contains '.' then
    let back := kept.reverse
    ((back.dropWhile Text.isAsciiDigit).reverse, (back.takeWhile Text.isAsciiDigit).reverse)
  else (kept, [])

/-- Hundredths of a digit sequence after the separator, the third digit rounding up from 5. -/
def hundredths (digits : List Char) : Nat :=
  let digit (i : Nat) : Nat := ((digits[i]?).map fun c => c.toNat - 48).getD 0
  digit 0 * 10 + digit 1 + (if 5 ≤ digit 2 then 1 else 0)

/-- The amount in minor units; zero if there is none or it does not fit 64 bits. -/
def centsOf (s : String) : Int :=
  let kept := s.toList.filter fun c => Text.isAsciiDigit c || c == ',' || c == '.'
  let (before, fraction) := splitDecimals kept
  let units := Text.digitsValue (before.filter Text.isAsciiDigit)
  let total : Int := units * 100 + hundredths fraction
  if total ≤ Text.maxInt64 then total else 0

/-- Digits in groups of three. -/
def grouped (digits : List Char) : List Char :=
  let rec go : List Char → List Char
    | [] => []
    | d :: rest => (if rest.length % 3 == 0 && !rest.isEmpty then [d, ','] else [d]) ++ go rest
  go digits

def written (cents : Int) (currency : String) : String :=
  let units := cents.natAbs / 100
  let rest := cents.natAbs % 100
  let sign := if cents < 0 then "-" else ""
  let tail := if rest == 0 then "" else if rest < 10 then s!".0{rest}" else s!".{rest}"
  sign ++ signOf currency ++ .ofList (grouped (Nat.toDigits 10 units)) ++ tail

/-- An amount in major units, as minor units of 64 bits. -/
def centsOfAmount (amount : Binary64) : Int :=
  match amount.mul? (.ofNat 100) with
  | some x => Text.clampInt64 x.round
  | none => if amount.negative then Text.minInt64 else Text.maxInt64

/-- A price from its text, with an amount that goes before the text and a currency for texts that
name none. -/
def normalize (text : String) (amount : Option Binary64) (fallback : Option String) : Price :=
  let currency := (currencyIn? text).getD
    (((fallback.bind Text.nonBlank?).map Text.asciiUpper).getD "USD")
  let cents := match amount with
    | some x => if x.isZero then centsOf text else centsOfAmount x
    | none => centsOf text
  let shown := Text.trimmed text
  ⟨cents, currency, if shown.isEmpty then written cents currency else shown⟩

end Price

end Estate
