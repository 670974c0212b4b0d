import Estate.Text.Category

/-!
Decimal integers: digits with an optional sign, within the range of the machine word that holds
them.
-/

-- A power is the core one, also where the powers of monoids are in scope.
attribute [instance (high), default_instance 20000] instPowNat

namespace Estate.Text

def digitsValue (cs : List Char) : Nat := cs.foldl (fun n c => n * 10 + (c.toNat - 48)) 0

def isDigits (cs : List Char) : Bool := !cs.isEmpty && cs.all isAsciiDigit

/-- Digits after an optional plus sign, below 2^64. -/
def index? (cs : List Char) : Option Nat :=
  let digits := match cs with
    | '+' :: rest => rest
    | _ => cs
  if isDigits digits && digitsValue digits < 2 ^ 64 then some (digitsValue digits) else none

def minInt64 : Int := -2 ^ 63

def maxInt64 : Int := 2 ^ 63 - 1

/-- Digits after an optional sign, in the range of 64-bit integers. -/
def int64? (cs : List Char) : Option Int :=
  let (negative, digits) := match cs with
    | '+' :: rest => (false, rest)
    | '-' :: rest => (true, rest)
    | _ => (false, cs)
  if isDigits digits then
    let n : Int := if negative then -(digitsValue digits : Int) else digitsValue digits
    if minInt64 ≤ n && n ≤ maxInt64 then some n else none
  else none

/-- The nearest 64-bit integer. -/
def clampInt64 (n : Int) : Int := max minInt64 (min maxInt64 n)

end Estate.Text
