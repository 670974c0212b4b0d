import Estate.Binary64.Shortest
import Estate.Text.Integer

/-!
Numbers as text: reading decimal literals, and writing with the fewest digits or with a fixed
number of places.
-/

namespace Estate.Binary64

/-- A decimal literal: sign, digits of the integer part, digits of the fraction, power of ten. -/
structure Literal where
  negative : Bool
  whole : List Char
  fractional : List Char
  exponent : Int
deriving DecidableEq

/-- The nearest number; none if it is too great. Literals that are far too great or too small are
settled by counting digits. -/
def Literal.toBinary64? (l : Literal) : Option Binary64 :=
  let digits := (l.whole ++ l.fractional).dropWhile (· == '0')
  let n := Text.digitsValue digits
  let e := l.exponent - l.fractional.length
  let top := e + digits.length
  if n == 0 || top < -400 then some { zero with negative := l.negative }
  else if top > 400 then none
  else ofFraction? l.negative (n * 10 ^ e.toNat) (10 ^ (-e).toNat)

/-- How the fewest digits are laid out: positional for magnitudes in `[10 ^ low, 10 ^ high)`, else
with an exponent; whether an integral value gets a fraction of zero. -/
structure Layout where
  positional : Int → Bool
  integralTail : List Char

def zeros (n : Nat) : List Char := List.replicate n '0'

/-- Digits with a point before the last `-exponent` of them, or with zeros behind them. -/
def positionalText (d : Decimal) (integralTail : List Char) : List Char :=
  let point := d.exponent + d.digits.length
  if 0 ≤ d.exponent then d.digits ++ zeros d.exponent.toNat ++ integralTail
  else if 0 < point then
    d.digits.take point.toNat ++ ['.'] ++ d.digits.drop point.toNat
  else ['0', '.'] ++ zeros (-point).toNat ++ d.digits

/-- One digit, a point and the others, and the exponent with its sign. -/
def scientificText (d : Decimal) : List Char :=
  let e := d.exponent + d.digits.length - 1
  let tail := match d.digits.drop 1 with
    | [] => []
    | more => '.' :: more
  d.digits.take 1 ++ tail ++ ['e', if e < 0 then '-' else '+'] ++ decimalDigits e.natAbs

def render (layout : Layout) (x : Binary64) : List Char :=
  let sign := if x.negative then ['-'] else []
  if x.isZero then sign ++ ['0'] ++ layout.integralTail
  else
    let d := x.shortest
    let point := d.exponent + d.digits.length
    sign ++ (if layout.positional point then positionalText d layout.integralTail
      else scientificText d)

/-- Positional notation at every size, integral values without a point. -/
def plain : Layout := ⟨fun _ => true, []⟩

def toPlainText (x : Binary64) : String := .ofList (x.render plain)

/-- The value rounded to a number of places, a half going to the even neighbour. -/
def toFixed (places : Nat) (x : Binary64) : String :=
  let (num, den) := x.fraction
  let scaled := roundHalfEven (num * 10 ^ places) den
  let digits := decimalDigits scaled
  let padded := zeros (places + 1 - digits.length) ++ digits
  let split := padded.length - places
  .ofList ((if x.negative then ['-'] else []) ++ padded.take split ++ ['.'] ++ padded.drop split)

/-- The digits at the start of a text and the rest. -/
def spanDigits (cs : List Char) : List Char × List Char := cs.span Text.isAsciiDigit

/-- Sign, digits with a point among or around them, and an exponent, with nothing behind. -/
def literal? (cs : List Char) : Option Literal :=
  let (negative, body) := match cs with
    | '-' :: rest => (true, rest)
    | '+' :: rest => (false, rest)
    | _ => (false, cs)
  let (whole, afterWhole) := spanDigits body
  let (fractional, afterFraction) := match afterWhole with
    | '.' :: rest => spanDigits rest
    | _ => ([], afterWhole)
  if whole.isEmpty && fractional.isEmpty then none
  else match afterFraction with
    | [] => some ⟨negative, whole, fractional, 0⟩
    | c :: rest =>
      if c == 'e' || c == 'E' then
        let (down, digits) := match rest with
          | '-' :: more => (true, more)
          | '+' :: more => (false, more)
          | _ => (false, rest)
        if Text.isDigits digits then
          let e : Int := Text.digitsValue digits
          some ⟨negative, whole, fractional, if down then -e else e⟩
        else none
      else none

end Estate.Binary64
