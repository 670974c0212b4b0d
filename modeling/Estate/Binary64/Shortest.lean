import Estate.Binary64.Basic

/-!
The fewest decimal digits that read back as a given number: of the grids of one digit, two digits
and so on, the first that has a point in the interval of reals rounding to the number, and of its
points the nearest.
-/

namespace Estate.Binary64

/-- Decimal digits without leading zeros, and the power of ten of the last one. -/
structure Decimal where
  digits : List Char
  exponent : Int

def decimalDigits (n : Nat) : List Char := Nat.toDigits 10 n

/-- The least power of ten above a positive fraction. -/
def magnitude (num den : Nat) : Int :=
  if den ≤ num then (decimalDigits (num / den)).length
  else
    let zeros : Int := (decimalDigits (den / num)).length - 1
    if den % num == 0 && den / num == 10 ^ zeros.toNat then 1 - zeros else -zeros

/-- The interval of a number in quarters of its unit in the last place: lower end, value, upper
end. Below a power of two the numbers are twice as dense. -/
def interval (x : Binary64) : Nat × Nat × Nat :=
  let m := x.significand
  (if x.code.val % 2 ^ 52 == 0 && 2 ^ 53 ≤ x.code.val then 4 * m - 1 else 4 * m - 2,
    4 * m, 4 * m + 2)

/-- The nearest point of the grid of `10 ^ p` that rounds to the number. -/
def gridPoint? (x : Binary64) (p : Int) : Option Nat :=
  let (lo, mid, hi) := x.interval
  let e := x.exponent - 2
  let scale := 2 ^ e.toNat * 10 ^ (-p).toNat
  let unit := 10 ^ p.toNat * 2 ^ (-e).toNat
  let inside (d : Nat) : Bool :=
    if x.significand % 2 == 0 then lo * scale ≤ d * unit && d * unit ≤ hi * scale
    else lo * scale < d * unit && d * unit < hi * scale
  let below := mid * scale / unit
  let gapBelow := mid * scale - below * unit
  let gapAbove := (below + 1) * unit - mid * scale
  let belowFirst := gapBelow < gapAbove || (gapBelow == gapAbove && below % 2 == 0)
  let (near, far) := if belowFirst then (below, below + 1) else (below + 1, below)
  if inside near then some near else if inside far then some far else none

/-- Try grids of more and more digits, at most `fuel` of them; 17 digits always suffice. -/
def shortestFrom (x : Binary64) (k : Int) : Nat → Nat → Decimal
  | 0, n => ⟨['0'], k - n⟩
  | fuel + 1, n =>
    match x.gridPoint? (k - n) with
    | some d => ⟨decimalDigits d, k - n⟩
    | none => shortestFrom x k fuel (n + 1)

def dropTrailingZeros (d : Decimal) : Decimal :=
  let kept := (d.digits.reverse.dropWhile (· == '0')).reverse
  ⟨kept, d.exponent + (d.digits.length - kept.length : Nat)⟩

/-- The digits of the magnitude of a number that is not zero. -/
def shortest (x : Binary64) : Decimal :=
  let (num, den) := x.fraction
  dropTrailingZeros (shortestFrom x (magnitude num den) 17 1)

end Estate.Binary64
