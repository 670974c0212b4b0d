import Estate.Json.Value
import Estate.Text.Case
import Estate.Text.Replace

/-!
Whether a listing offers a sale or a rental. Flags of the record decide first, then the words of
the address; a listing is a sale if nothing says otherwise.
-/

namespace Estate

inductive Tenure where
  | sale
  | rental
deriving DecidableEq

namespace Tenure

def name : Tenure → String
  | sale => "sale"
  | rental => "rental"

def rentalFlags : List String := ["for_rent_long_term", "for_rent_short_term", "for_rent"]

/-- True, a number other than zero, or a text that says yes. -/
def isTruthy : Json.Value → Bool
  | .bool b => b
  | .number n => !n.toBinary64.isZero
  | .string s => ["true", "yes", "1", "y", "on"].contains (Text.asciiLower (Text.trimmed s))
  | _ => false

def flagged (record : Json.Members) (key : String) : Bool :=
  (Keyed.get? record key).any isTruthy

def rentalWords : List (List Char) :=
  ["rent", "rental", "rentals", "alquiler", "alquileres", "miete", "mieten", "location",
    "locations", "louer", "affitto", "affitti", "aluguel", "arrendamento", "huur"].map
    String.toList

def endsWord (c : Char) : Bool := ['/', '?', '#', '_', '.', '-'].contains c

/-- A rental word at the start of a text in lower case, and the end of the word behind it. -/
def startsWithRental (cs : List Char) : Bool :=
  rentalWords.any fun w =>
    match Text.after? w cs with
    | some rest => rest.head?.all endsWord
    | none => false

/-- A rental word at the start of a segment in lower case, or behind words of letters that are
joined by hyphens; `word` tells whether a letter has been read since the last hyphen. -/
def segmentRents (atStart word : Bool) : List Char → Bool
  | [] => false
  | c :: cs =>
    (atStart && startsWithRental (c :: cs)) ||
      (if 'a' ≤ c && c ≤ 'z' then segmentRents false true cs
      else c == '-' && word && segmentRents true false cs)

/-- Some slash of a path in lower case starts such a segment. -/
def pathRents : List Char → Bool
  | [] => false
  | c :: cs => (c == '/' && segmentRents true false cs) || pathRents cs

/-- The path is that of the address of the page, if the address can be read. -/
def detect (record : Json.Members) (path : Option String) : Tenure :=
  if rentalFlags.any (flagged record) then rental
  else if flagged record "for_sale" then sale
  else if path.any fun p => pathRents (p.toList.map Text.lowerAscii) then rental
  else sale

end Tenure

end Estate
