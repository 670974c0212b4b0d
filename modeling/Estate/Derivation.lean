import Estate.Mapping
import Estate.Price
import Estate.PropertyType
import Estate.Tenure
import Estate.Url.Parser

/-!
Keys of a record that follow from others: the price in minor units, the category of the property,
sale or rental, what is known of the portal, and the address of the page.
-/

namespace Estate.Derivation

open Json

def text? (record : Members) (key : String) : Option String :=
  (Keyed.get? record key).bind Value.string?

/-- A text that is not blank. -/
def filledText? (record : Members) (key : String) : Option String :=
  (text? record key).filter fun s => (Text.nonBlank? s).isSome

/-- The currency of a price that names none: that of the record, or else of the portal. -/
def fallbackCurrency (portal : PortalInfo) (record : Members) : Option String :=
  (filledText? record "currency").or portal.currency

/-- A price is derived if there is a text or an amount for it. -/
def price (portal : PortalInfo) (record : Members) : Members :=
  let text := text? record "price_string"
  let amount := (Keyed.get? record "price_float").bind Value.binary64?
  if text.isNone && amount.isNone then record
  else
    let p := Price.normalize (text.getD "") amount (fallbackCurrency portal record)
    let record := Keyed.insert record "price_cents" (.ofInt p.cents)
    let record := Keyed.insert record "currency" (.string p.currency)
    Keyed.insert record "price_display" (.string p.display)

/-- The category takes the place of the words it was found by, which stay under a key of their
own. -/
def propertyType (record : Members) : Members :=
  match filledText? record "property_type" with
  | none => record
  | some raw =>
    let record := Keyed.insert record "property_type" (.string (PropertyType.classify raw).name)
    Keyed.insert record "property_type_raw" (.string raw)

def tenure (address : String) (record : Members) : Members :=
  let path := (Url.ofText address).toOption.map Url.pathText
  Keyed.insert record "listing_type" (.string (Tenure.detect record path).name)

/-- Fill in a text under a key that has nothing. -/
def fill (key : String) (text : Option String) (record : Members) : Members :=
  match text with
  | none => record
  | some s =>
    if (Keyed.get? record key).any Value.isPopulated then record
    else Keyed.insert record key (.string s)

def portal (p : PortalInfo) (record : Members) : Members :=
  fill "locale" p.locale (fill "area_unit" p.areaUnit (fill "country" p.country record))

/-- All that follows from a record, the portal, and the address of the page. -/
def all (p : PortalInfo) (address : String) (record : Members) : Members :=
  let derived := portal p (tenure address (propertyType (price p record)))
  Keyed.insert derived "import_url" (.string address)

end Estate.Derivation
