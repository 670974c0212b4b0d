import Estate.Digest
import Estate.Json.Printer
import Estate.Text.Case

/-!
Fingerprints of listings. The identity fields of a record are written as lines of one byte stream,
and the stream is digested; all other fields are irrelevant.
-/

namespace Estate.Fingerprint

/-- The fields that identify a listing, in the order they are written. -/
def identityFields : List String :=
  ["address_string", "postal_code", "city", "latitude", "longitude", "count_bedrooms",
    "count_bathrooms", "constructed_area", "price_cents"]

def isCoordinate (field : String) : Bool := field == "latitude" || field == "longitude"

/-- A coordinate as a text gives it: finite, or one of the words for what is not. -/
inductive Reading where
  | finite (x : Binary64)
  | infinite (negative : Bool)
  | notANumber

/-- Numbers too great for a double are infinite. -/
def reading? (s : String) : Option Reading :=
  let (negative, body) := match s.toList with
    | '-' :: rest => (true, rest)
    | '+' :: rest => (false, rest)
    | cs => (false, cs)
  let word := String.ofList (body.map Text.lowerAscii)
  if word == "inf" || word == "infinity" then some (.infinite negative)
  else if word == "nan" then some .notANumber
  else (Binary64.literal? s.toList).map fun l =>
    match l.toBinary64? with
    | some x => .finite x
    | none => .infinite l.negative

/-- Coordinates have four places, so that noise between visits does not show. -/
def Reading.written : Reading → String
  | .finite x => x.toFixed 4
  | .infinite negative => if negative then "-inf" else "inf"
  | .notANumber => "NaN"

/-- The text a field contributes, if it has one. -/
def canonical? (field : String) (v : Json.Value) : Option String :=
  match v with
  | .string s =>
    (Text.nonBlank? s).map fun t =>
      match (if isCoordinate field then reading? t else none) with
      | some r => r.written
      | none => Text.lower t
  | .number n =>
    some (if isCoordinate field then n.toBinary64.toFixed 4 else .ofList n.render)
  | .bool b => some (if b then "true" else "false")
  | _ => none

def fieldText? (record : Json.Members) (field : String) : Option String :=
  (Keyed.get? record field).bind (canonical? field)

/-- One line for each identity field that has a text. -/
def stream (record : Json.Members) : List String :=
  identityFields.filterMap fun field =>
    (fieldText? record field).map fun text => field ++ "=" ++ text ++ "\n"

def hexByte (b : UInt8) : List Char := [Json.hexDigit (b.toNat / 16), Json.hexDigit (b.toNat % 16)]

/-- Eight bytes of the digest in hexadecimal; none for a record without identity. -/
def compute? (record : Json.Members) : Option String :=
  let written := stream record
  if written.isEmpty then none
  else
    let digest := Digest.sha256 (String.join written).toUTF8.toList
    some (.ofList ((digest.take 8).flatMap hexByte))

end Estate.Fingerprint
