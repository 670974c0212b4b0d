/-!
Finite double-precision numbers, and the correctly rounded operations on them. A number is a sign
and a code; codes are in the order of the magnitudes they stand for, and every code is in use, so
equal numbers are equal values (the two zeros apart).
-/

-- A power is the core one, also where the powers of monoids are in scope.
attribute [instance (high), default_instance 20000] instPowNat

namespace Estate

/-- The code of the first magnitude that is not finite. -/
def Binary64.codeLimit : Nat := 2047 * 2 ^ 52

structure Binary64 where
  negative : Bool
  code : Fin Binary64.codeLimit
deriving DecidableEq

namespace Binary64

/-- The magnitude is `significand * 2 ^ exponent`. -/
def significand (x : Binary64) : Nat :=
  if x.code.val < 2 ^ 52 then x.code.val else 2 ^ 52 + x.code.val % 2 ^ 52

def exponent (x : Binary64) : Int :=
  if x.code.val < 2 ^ 52 then -1074 else (x.code.val / 2 ^ 52 : Nat) - 1075

/-- Numerator and denominator of the magnitude. -/
def fraction (x : Binary64) : Nat × Nat :=
  (x.significand * 2 ^ x.exponent.toNat, 2 ^ (-x.exponent).toNat)

/-- The quotient to the nearest integer, a half going to the even neighbour. -/
def roundHalfEven (num den : Nat) : Nat :=
  let q := num / den
  let r := num % den
  if 2 * r < den || (2 * r == den && q % 2 == 0) then q else q + 1

/-- The quotient to the nearest integer, a half going up. -/
def roundHalfUp (num den : Nat) : Nat := (2 * num + den) / (2 * den)

/-- The power of two that leaves a significand of 53 bits, or the least one. -/
def scaleFor (num den : Nat) : Int :=
  let guess : Int := (num.log2 : Int) - den.log2 - 52
  let exact :=
    if num * 2 ^ (-guess).toNat < 2 ^ 52 * (den * 2 ^ guess.toNat) then guess - 1 else guess
  max exact (-1074)

/-- The code of the nearest magnitude, which may be past the limit. -/
def roundedCode (num den : Nat) : Nat :=
  if num == 0 then 0
  else
    let e := scaleFor num den
    (e + 1074).toNat * 2 ^ 52 + roundHalfEven (num * 2 ^ (-e).toNat) (den * 2 ^ e.toNat)

/-- The number nearest to a fraction, unless it is too great. -/
def ofFraction? (negative : Bool) (num den : Nat) : Option Binary64 :=
  let code := roundedCode num den
  if h : code < codeLimit then some ⟨negative, ⟨code, h⟩⟩ else none

def zero : Binary64 := ⟨false, ⟨0, by decide⟩⟩

def greatest : Binary64 := ⟨false, ⟨codeLimit - 1, by decide⟩⟩

def ofNat (n : Nat) : Binary64 := (ofFraction? false n 1).getD greatest

def neg (x : Binary64) : Binary64 := { x with negative := !x.negative }

/-- The nearest number; integers of 64 bits are far below the limit. -/
def ofInt (n : Int) : Binary64 := if n < 0 then (ofNat n.natAbs).neg else ofNat n.natAbs

def isZero (x : Binary64) : Bool := x.code.val == 0

/-- The place of a number in the order of numbers, both zeros at 0. -/
def rank (x : Binary64) : Int := if x.negative then -(x.code.val : Int) else x.code.val

/-- Order of values; the two zeros are equal. -/
def le (x y : Binary64) : Bool := decide (x.rank ≤ y.rank)

/-- Numerator, with the sign, and denominator. -/
def ratio (x : Binary64) : Int × Nat :=
  (if x.negative then -(x.fraction.1 : Int) else x.fraction.1, x.fraction.2)

def ofRatio? (num : Int) (den : Nat) : Option Binary64 :=
  ofFraction? (num < 0) num.natAbs den

/-- The sum, rounded, unless it is too great. -/
def add? (x y : Binary64) : Option Binary64 :=
  let (a, b) := x.ratio
  let (c, d) := y.ratio
  ofRatio? (a * d + c * b) (b * d)

/-- The product, rounded, unless it is too great. -/
def mul? (x y : Binary64) : Option Binary64 :=
  let (a, b) := x.fraction
  let (c, d) := y.fraction
  ofFraction? (x.negative != y.negative) (a * c) (b * d)

/-- The quotient by a number other than zero, rounded, unless it is too great. -/
def div? (x y : Binary64) : Option Binary64 :=
  let (a, b) := x.fraction
  let (c, d) := y.fraction
  ofFraction? (x.negative != y.negative) (a * d) (b * c)

/-- The value, if it is an integer. -/
def toInt? (x : Binary64) : Option Int :=
  let (a, b) := x.fraction
  if a % b == 0 then some (if x.negative then -(a / b : Nat) else (a / b : Nat)) else none

/-- The integer part. -/
def truncate (x : Binary64) : Int :=
  let (a, b) := x.fraction
  if x.negative then -(a / b : Nat) else (a / b : Nat)

/-- The nearest integer, a half going away from zero. -/
def round (x : Binary64) : Int :=
  let (a, b) := x.fraction
  if x.negative then -(roundHalfUp a b : Nat) else (roundHalfUp a b : Nat)

end Binary64

end Estate
