/-!
Punycode: a label with any characters written in ASCII letters, digits and hyphens. The ASCII
characters come first, and behind the last hyphen stand the others, each as the distance from the
one inserted before it.
-/

namespace Estate.Domain.Punycode

def digitChar (d : Nat) : Char := Char.ofNat (if d < 26 then 97 + d else 22 + d)

def digit? (c : Char) : Option Nat :=
  if 'a' ≤ c && c ≤ 'z' then some (c.toNat - 97)
  else if 'A' ≤ c && c ≤ 'Z' then some (c.toNat - 65)
  else if '0' ≤ c && c ≤ '9' then some (c.toNat - 22)
  else none

/-- A digit below the threshold ends a distance; `k` is 36 for the first digit, 72 for the next. -/
def threshold (k bias : Nat) : Nat := max 1 (min 26 (k - bias))

def damped (delta k : Nat) : Nat :=
  if delta > 455 then damped (delta / 35) (k + 36) else k + 36 * delta / (delta + 38)
termination_by delta

/-- The bias for the next distance, from the last distance and the characters placed so far. -/
def adapt (delta placed : Nat) (first : Bool) : Nat :=
  let d := if first then delta / 700 else delta / 2
  damped (d + d / placed) 0

theorem threshold_bounds (k bias : Nat) : 1 ≤ threshold k bias ∧ threshold k bias ≤ 26 := by
  unfold threshold
  omega

def distanceDigits (bias k q : Nat) : List Char :=
  let t := threshold k bias
  if q < t then [digitChar q]
  else digitChar (t + (q - t) % (36 - t)) :: distanceDigits bias (k + 36) ((q - t) / (36 - t))
termination_by q
decreasing_by
  have h := threshold_bounds k bias
  have := Nat.div_le_self (q - threshold k bias) (36 - threshold k bias)
  omega

/-- The digits written so far, back to front, the distance from the last character placed, the bias,
and how many characters are placed. -/
structure Encoding where
  digits : List Char
  delta : Nat
  bias : Nat
  placed : Nat

/-- Go over the label, placing the characters of one code point. -/
def Encoding.place (basic code : Nat) (e : Encoding) (c : Char) : Encoding :=
  if c.toNat < code then { e with delta := e.delta + 1 }
  else if c.toNat == code then
    { digits := (distanceDigits e.bias 36 e.delta).reverse ++ e.digits
      delta := 0
      bias := adapt e.delta (e.placed + 1) (e.placed == basic)
      placed := e.placed + 1 }
  else e

/-- Place the code points given in ascending order, all below `least` being placed. -/
def encodeCodes (label : List Char) (basic : Nat) : List Nat → Nat → Encoding → Encoding
  | [], _, e => e
  | code :: codes, least, e =>
    let e := { e with delta := e.delta + (code - least) * (e.placed + 1) }
    let e := label.foldl (Encoding.place basic code) e
    encodeCodes label basic codes (code + 1) { e with delta := e.delta + 1 }

def encode (label : List Char) : List Char :=
  let basic := label.filter fun c => c.toNat < 128
  let codes := ((label.map Char.toNat).filter (128 ≤ ·)).mergeSort.eraseDups
  let e := encodeCodes label basic.length codes 128 ⟨[], 0, 72, basic.length⟩
  basic ++ (if basic.isEmpty then [] else ['-']) ++ e.digits.reverse

/-- The distance written at the start of a text, added to `i`, and the text behind it. -/
def distance? (bias k weight i : Nat) : List Char → Option (Nat × List Char)
  | [] => none
  | c :: cs =>
    (digit? c).bind fun d =>
      let t := threshold k bias
      if d < t then some (i + d * weight, cs)
      else distance? bias (k + 36) (weight * (36 - t)) (i + d * weight) cs

/-- Insert the characters whose distances are written; each uses up at least one digit, so there are
at most as many as `fuel`. -/
def insertFrom (bias code i : Nat) (label : List Char) : Nat → List Char → Option (List Char)
  | _, [] => some label
  | 0, _ => none
  | fuel + 1, cs =>
    (distance? bias 36 1 i cs).bind fun (j, rest) =>
      let size := label.length + 1
      let code := code + j / size
      if code < 0xD800 || (0xDFFF < code && code < 0x110000) then
        let bias := adapt (j - i) size (i == 0)
        insertFrom bias code (j % size + 1) (label.insertIdx (j % size) (Char.ofNat code)) fuel rest
      else none

def decode? (cs : List Char) : Option (List Char) :=
  let digits := (cs.reverse.takeWhile (· != '-')).reverse
  insertFrom 72 128 0 (cs.take (cs.length - digits.length - 1)) digits.length digits

end Estate.Domain.Punycode
