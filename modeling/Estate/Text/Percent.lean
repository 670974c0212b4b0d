import Estate.Text.Table

/-!
Percent encoding: a character is written as the bytes of its UTF-8 form, each as a percent sign and
two hexadecimal digits.
-/

namespace Estate.Text

def upperHexDigit (d : Nat) : Char := Char.ofNat (if d < 10 then 48 + d else 55 + d)

def percentByte (b : UInt8) : List Char :=
  ['%', upperHexDigit (b.toNat / 16), upperHexDigit (b.toNat % 16)]

/-- Encode the control characters, all beyond ASCII, and the characters of a set. -/
def percentEncode (set : List Char) (cs : List Char) : List Char :=
  cs.flatMap fun c =>
    if c < ' ' || '\x7e' < c || set.contains c then
      (String.utf8EncodeChar c).flatMap percentByte
    else [c]

/-- The bytes of a text, those written with a percent sign decoded. -/
def percentDecode : List Char → List UInt8
  | [] => []
  | '%' :: a :: b :: cs =>
    match hexDigit? a, hexDigit? b with
    | some h, some l => UInt8.ofNat (16 * h + l) :: percentDecode cs
    | _, _ => 37 :: percentDecode (a :: b :: cs)
  | c :: cs => String.utf8EncodeChar c ++ percentDecode cs

/-- The bytes of a text in UTF-8. -/
def toBytes (s : String) : List UInt8 := s.toUTF8.data.toList

/-- The text that bytes in UTF-8 stand for. -/
def ofBytes? (bytes : List UInt8) : Option String := String.fromUTF8? ⟨bytes.toArray⟩

end Estate.Text
