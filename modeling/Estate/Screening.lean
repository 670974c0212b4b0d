import Estate.Binary64.Basic
import Estate.Json.Shape
import Estate.Price
import Estate.Text.Replace

/-!
Screening of listings by criteria. The criteria are independent and every one that fails is
reported.
-/

namespace Estate

structure Criteria where
  excludedTerms : List String
  minPriceCents : Option Int
  maxPriceCents : Option Int
  minBedrooms : Option Int
  requiredFields : List String

namespace Criteria

def none : Criteria := ⟨[], .none, .none, .none, []⟩

def shape : Json.Shape :=
  [["excludedTerms"], ["minPriceCents"], ["maxPriceCents"], ["minBedrooms"], ["requiredFields"]]

/-- A 64-bit integer or null. -/
def bound? : Json.Term → Option (Option Int)
  | .null => some .none
  | .number (some (.int n)) => if n ≤ Text.maxInt64 then some (some n) else .none
  | _ => .none

def ofTerm? (t : Json.Term) : Option Criteria := do
  let fields ← shape.read? t
  return {
    excludedTerms := ← fields.get? "excludedTerms" [] (Json.Term.strings? Json.depthLimit)
    minPriceCents := ← fields.get? "minPriceCents" .none bound?
    maxPriceCents := ← fields.get? "maxPriceCents" .none bound?
    minBedrooms := ← fields.get? "minBedrooms" .none bound?
    requiredFields := ← fields.get? "requiredFields" [] (Json.Term.strings? Json.depthLimit) }

end Criteria

/-- Why a listing does not pass. -/
inductive Objection where
  | excludedTerm (term : String)
  | priceBelowMinimum (cents minimum : Int)
  | priceAboveMaximum (cents maximum : Int)
  | tooFewBedrooms (bedrooms minimum : Int)
  | missingField (field : String)
deriving DecidableEq

namespace Objection

def message : Objection → String
  | excludedTerm term => s!"contains excluded term '{term}'"
  | priceBelowMinimum cents minimum => s!"price {cents} below minimum {minimum}"
  | priceAboveMaximum cents maximum => s!"price {cents} above maximum {maximum}"
  | tooFewBedrooms bedrooms minimum => s!"{bedrooms} bedrooms, at least {minimum} required"
  | missingField field => s!"missing required field '{field}'"

def toJson (o : Objection) : Json.Value :=
  let tagged (tag : String) (rest : List (String × Json.Value)) : Json.Value :=
    .object (Keyed.ofList (("reason", .string tag) :: rest))
  match o with
  | excludedTerm term => tagged "excludedTerm" [("term", .string term)]
  | priceBelowMinimum cents minimum =>
    tagged "priceBelowMinimum" [("price_cents", .ofInt cents), ("min_cents", .ofInt minimum)]
  | priceAboveMaximum cents maximum =>
    tagged "priceAboveMaximum" [("price_cents", .ofInt cents), ("max_cents", .ofInt maximum)]
  | tooFewBedrooms bedrooms minimum =>
    tagged "tooFewBedrooms" [("bedrooms", .ofInt bedrooms), ("min_bedrooms", .ofInt minimum)]
  | missingField field => tagged "missingField" [("field", .string field)]

end Objection

namespace Screening

/-- Title and description in lower case, as far as they are texts, with a space between. -/
def searched (record : Json.Members) : String :=
  let texts := ["title", "description"].filterMap fun key =>
    (Keyed.get? record key).bind Json.Value.string?
  Text.lower (String.intercalate " " texts)

/-- The term occurs, blanks around it and case apart; a blank term does not. -/
def mentions (haystack term : String) : Bool :=
  let needle := Text.lower (Text.trimmed term)
  !needle.isEmpty && Text.occursIn needle.toList haystack.toList

/-- A number without its fraction, or a text that is an integer. -/
def wholeNumber? : Json.Value → Option Int
  | .number n => some ((n.toInt64?).getD (Text.clampInt64 n.toBinary64.truncate))
  | .string s => Text.int64? (Text.trim s.toList)
  | _ => none

/-- The price in minor units; zero where it is not known. -/
def priceOf (record : Json.Members) : Int :=
  match (Keyed.get? record "price_cents").bind wholeNumber? with
  | some cents => cents
  | none =>
    match (Keyed.get? record "price_float").bind Json.Value.binary64? with
    | some amount => Price.centsOfAmount amount
    | none => 0

/-- Objections to a price. An unknown price is never objected to. -/
def priceObjections (cents : Int) (c : Criteria) : List Objection :=
  if cents = 0 then []
  else
    ((c.minPriceCents.filter (cents < ·)).map (Objection.priceBelowMinimum cents)).toList ++
      ((c.maxPriceCents.filter (· < cents)).map (Objection.priceAboveMaximum cents)).toList

def bedroomObjections (record : Json.Members) (c : Criteria) : List Objection :=
  match c.minBedrooms, (Keyed.get? record "count_bedrooms").bind wholeNumber? with
  | some minimum, some bedrooms =>
    if bedrooms < minimum then [.tooFewBedrooms bedrooms minimum] else []
  | _, _ => []

def lacks (record : Json.Members) (field : String) : Bool :=
  !(Keyed.get? record field).any Json.Value.isPopulated

/-- All objections, in the order terms, price, bedrooms, fields. -/
def objections (record : Json.Members) (c : Criteria) : List Objection :=
  let haystack := searched record
  (c.excludedTerms.filter (mentions haystack)).map .excludedTerm ++
    priceObjections (priceOf record) c ++ bedroomObjections record c ++
    (c.requiredFields.filter (lacks record)).map .missingField

def passes (record : Json.Members) (c : Criteria) : Bool := (objections record c).isEmpty

end Screening

end Estate
