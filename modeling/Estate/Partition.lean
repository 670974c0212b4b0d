import Estate.Json.Value

/-!
Division of a record into what describes the property, what describes this offer of it, and the
rest.
-/

namespace Estate

structure Partition where
  asset : Json.Members
  listing : Json.Members
  unmapped : Json.Members

namespace Partition

/-- What belongs to the property itself. -/
def assetFields : List String :=
  ["address_string", "street_address", "street_name", "street_number", "postal_code", "city",
    "province", "region", "country", "latitude", "longitude", "property_type",
    "property_type_raw", "count_bedrooms", "count_bathrooms", "count_toilets", "count_garages",
    "constructed_area", "plot_area", "area_unit", "year_construction", "energy_rating",
    "energy_performance", "image_urls", "features"]

/-- What belongs to one offer of the property. -/
def listingFields : List String :=
  ["reference", "title", "description", "price_string", "price_float", "price_cents",
    "price_display", "currency", "listing_type", "for_sale", "for_rent", "for_rent_long_term",
    "for_rent_short_term", "sold", "reserved", "furnished", "agent_name", "agent_phone", "locale",
    "import_url"]

def isAsset (key : String) : Bool := assetFields.contains key

def isListing (key : String) : Bool := !isAsset key && listingFields.contains key

/-- Every entry goes to one part. -/
def ofRecord (record : Json.Members) : Partition where
  asset := record.filter fun e => isAsset e.1
  listing := record.filter fun e => isListing e.1
  unmapped := record.filter fun e => !isAsset e.1 && !isListing e.1

end Partition

end Estate
