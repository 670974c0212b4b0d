import Estate.Domain.Ascii
import Estate.Text.Integer
import Estate.Text.Percent
import Estate.Text.Replace
import Estate.Url.Basic

/-!
Reading the host of an address: a number address in one of its many spellings, or a name.
-/

namespace Estate.Url

inductive Fault where
  | noBase
  | opaqueBase
  | emptyHost
  | port
  | ipv4
  | ipv6
  | domain
  | hostCharacter
deriving DecidableEq

def Fault.message : Fault → String
  | .noBase => "relative URL without a base"
  | .opaqueBase => "relative URL with a cannot-be-a-base base"
  | .emptyHost => "empty host"
  | .port => "invalid port number"
  | .ipv4 => "invalid IPv4 address"
  | .ipv6 => "invalid IPv6 address"
  | .domain => "invalid international domain name"
  | .hostCharacter => "invalid domain character"

/-- A number in decimal, in octal behind a zero, or in hexadecimal behind 0x. -/
def ipv4Number? (cs : List Char) : Option Nat :=
  let inBase (base : Nat) (digits : List Char) : Option Nat :=
    digits.foldlM (fun n c =>
      (Text.hexDigit? c).bind fun d => if d < base then some (n * base + d) else none) 0
  match cs with
  | [] => none
  | '0' :: x :: digits => if x == 'x' || x == 'X' then inBase 16 digits else inBase 8 (x :: digits)
  | _ => inBase 10 cs

/-- The parts of a name between its dots, a dot at the end not counting. -/
def dotParts (name : List Char) : List (List Char) :=
  let parts := name.splitOn '.'
  if parts.length > 1 && parts.getLast? == some [] then parts.dropLast else parts

def endsInNumber (name : List Char) : Bool :=
  (dotParts name).getLast?.any fun part => Text.isDigits part || (ipv4Number? part).isSome

/-- All parts but the last stand for a byte; the last stands for all the bytes that are left. -/
def ipv4? (name : List Char) : Option Nat :=
  let parts := dotParts name
  if parts.length > 4 then none
  else (parts.mapM ipv4Number?).bind fun numbers =>
    let bytes := numbers.dropLast
    numbers.getLast?.bind fun last =>
      if bytes.any (· > 255) || last ≥ 256 ^ (4 - bytes.length) then none
      else some (bytes.foldl (fun n b => n * 256 + b) 0 * 256 ^ (4 - bytes.length) + last)

/-- Four decimal bytes, without zeros in front. -/
def dottedBytes? (cs : List Char) : Option (List Nat) :=
  let byte? (part : List Char) : Option Nat :=
    if Text.isDigits part && (part.length == 1 || part.head? != some '0') &&
        Text.digitsValue part < 256 then some (Text.digitsValue part)
    else none
  ((cs.splitOn '.').mapM byte?).bind fun bytes => if bytes.length == 4 then some bytes else none

def ipv6Piece? (cs : List Char) : Option Nat :=
  if cs.isEmpty || cs.length > 4 || cs.any fun c => (Text.hexDigit? c).isNone then none
  else some (Text.ofHex cs)

/-- Pieces between colons; four bytes may stand for the last two. -/
def ipv6Pieces? (bytesAllowed : Bool) (cs : List Char) : Option (List Nat) :=
  if cs.isEmpty then some []
  else
    let parts := cs.splitOn ':'
    match parts.getLast?, (parts.getLast?.bind dottedBytes?) with
    | some _, some [a, b, c, d] =>
      if bytesAllowed then
        (parts.dropLast.mapM ipv6Piece?).map (· ++ [a * 256 + b, c * 256 + d])
      else none
    | _, _ => parts.mapM ipv6Piece?

/-- Eight pieces, or fewer with two colons in place of the zeros left out. -/
def ipv6? (cs : List Char) : Option (List Nat) :=
  match Text.cutAt? "::".toList cs with
  | some (before, behind) =>
    (ipv6Pieces? false before).bind fun front =>
      (ipv6Pieces? true behind).bind fun back =>
        let given := front.length + back.length
        if given < 8 then some (front ++ .replicate (8 - given) 0 ++ back) else none
  | none => (ipv6Pieces? true cs).bind fun pieces => if pieces.length == 8 then some pieces else none

/-- A host in brackets. -/
def bracketed? (cs : List Char) : Except Fault Host :=
  match cs.getLast?, ipv6? (cs.drop 1).dropLast with
  | some ']', some pieces => .ok (.ipv6 pieces)
  | _, _ => .error .ipv6

/-- The host of an address with a special scheme. -/
def host? (cs : List Char) : Except Fault Host :=
  if cs.head? == some '[' then bracketed? cs
  else
    match (Text.ofBytes? (Text.percentDecode cs)).bind fun s => Domain.toAscii? s.toList with
    | none => .error .domain
    | some [] => .error .emptyHost
    | some name =>
      if endsInNumber name then
        match ipv4? name with
        | some address => .ok (.ipv4 address)
        | none => .error .ipv4
      else .ok (.name (.ofList name))

/-- The host of any other address. -/
def otherHost? (cs : List Char) : Except Fault Host :=
  if cs.head? == some '[' then bracketed? cs
  else if cs.any ("\x00\t\n\r #/:<>?@[\\]^|".toList.contains ·) then .error .hostCharacter
  else .ok (.name (.ofList (Text.percentEncode [] cs)))

end Estate.Url
