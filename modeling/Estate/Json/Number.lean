import Estate.Binary64.Text
import Estate.Text.Integer

/-!
JSON numbers and their written forms.
-/

namespace Estate.Json

/-- A number is an integer from -2^63 to 2^64 - 1, or a finite double. -/
inductive Number where
  | int (n : Int)
  | float (x : Binary64)
deriving DecidableEq

namespace Number

def toBinary64 : Number → Binary64
  | int n => .ofInt n
  | float x => x

/-- The integer, if it is one of 64 signed bits and not a float. -/
def toInt64? : Number → Option Int
  | int n => if n ≤ Text.maxInt64 then some n else none
  | float _ => none

/-- Positional from 1e-5 up to 1e16; integral values show a zero behind the point. -/
def floatLayout : Binary64.Layout := ⟨fun point => -5 < point && point ≤ 16, ['.', '0']⟩

def render : Number → List Char
  | int n => if n < 0 then '-' :: Nat.toDigits 10 n.natAbs else Nat.toDigits 10 n.natAbs
  | float x => x.render floatLayout

end Number

/-- A number as written: an optional minus sign, digits without a superfluous zero, then a fraction
and an exponent, each optional and each with a digit at least. -/
structure Lexeme where
  negative : Bool
  whole : List Char
  /-- The digits after the point, if there is one. -/
  fractional : Option (List Char)
  exponent : Option Int

namespace Lexeme

def ofChars? (cs : List Char) : Option Lexeme :=
  let (negative, body) := match cs with
    | '-' :: rest => (true, rest)
    | _ => (false, cs)
  let (whole, afterWhole) := Binary64.spanDigits body
  let (fractional, afterFraction) := match afterWhole with
    | '.' :: rest =>
      let (digits, more) := Binary64.spanDigits rest
      (some digits, more)
    | _ => (none, afterWhole)
  let wholeOk := !whole.isEmpty && (whole.length == 1 || whole.head? != some '0')
  if !wholeOk || fractional == some [] then none
  else match afterFraction with
    | [] => some ⟨negative, whole, fractional, none⟩
    | c :: rest =>
      if c == 'e' || c == 'E' then
        let (down, digits) := match rest with
          | '-' :: more => (true, more)
          | '+' :: more => (false, more)
          | _ => (false, rest)
        if Text.isDigits digits then
          let e : Int := Text.digitsValue digits
          some ⟨negative, whole, fractional, some (if down then -e else e)⟩
        else none
      else none

/-- Digits behind those of a number, as many as 64 bits have room for, and the other digits. -/
def gather : Nat → List Char → Nat × List Char
  | n, [] => (n, [])
  | n, c :: cs =>
    let more := n * 10 + (c.toNat - 48)
    if more < 2 ^ 64 then gather more cs else (n, c :: cs)

/-- An integer, rounded, times or over a power of ten, rounded again: near the exact product, but
not always the nearest number. Powers past the greatest one are taken in two steps; there is none if
the product is too great. -/
def scaled? (n : Nat) (e : Int) : Option Binary64 :=
  let x := Binary64.ofNat n
  let ten (k : Int) : Binary64 := .ofNat (10 ^ k.toNat)
  if n = 0 then some .zero
  else if 308 < e then none
  else if 0 ≤ e then x.mul? (ten e)
  else if -308 ≤ e then x.div? (ten (-e))
  else if -616 ≤ e then (x.div? (ten 308)).bind (·.div? (ten (-e - 308)))
  else some .zero

/-- The digits that 64 bits have room for and the place of the point make the float. -/
def float? (l : Lexeme) : Option Binary64 :=
  let fractional := l.fractional.getD []
  let (whole, beyond) := gather 0 l.whole
  let (n, ignored) := gather whole fractional
  let e : Int := beyond.length - (fractional.length - ignored.length : Nat) + l.exponent.getD 0
  (scaled? n e).map fun x => { x with negative := l.negative }

/-- Whole numbers are integers if they are in range, minus zero apart; a number too great for a
double is none. -/
def number? (l : Lexeme) : Option Number :=
  let float := l.float?.map Number.float
  if l.fractional.isSome || l.exponent.isSome then float
  else
    let n := Text.digitsValue l.whole
    if l.negative then (if 0 < n && n ≤ 2 ^ 63 then some (.int (-(n : Int))) else float)
    else if n < 2 ^ 64 then some (.int n) else float

end Lexeme

end Estate.Json
