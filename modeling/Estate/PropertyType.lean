import Estate.Text.Case
import Estate.Text.Category
import Estate.Text.Decomposition
import Estate.Text.Replace

/-!
Classification of a property by the words of its description. Categories are tried in a fixed
order and accents do not count.
-/

namespace Estate

inductive PropertyType where
  | studio
  | apartment
  | villa
  | house
  | land
  | office
  | commercial
  | garage
  | storage
  | other
deriving DecidableEq

namespace PropertyType

def name : PropertyType → String
  | studio => "studio"
  | apartment => "apartment"
  | villa => "villa"
  | house => "house"
  | land => "land"
  | office => "office"
  | commercial => "commercial"
  | garage => "garage"
  | storage => "storage"
  | other => "other"

/-- The categories with words of their own, in the order they are tried: studios are often called
apartments too. -/
def ranked : List PropertyType :=
  [studio, apartment, villa, house, land, office, commercial, garage, storage]

def words : PropertyType → List String
  | studio => ["studio", "studios", "estudio", "monolocale", "kitchenette", "bedsit"]
  | apartment =>
    ["apartment", "apartments", "apt", "flat", "flats", "condo", "condominium", "penthouse",
      "duplex", "loft", "piso", "pisos", "apartamento", "atico", "departamento", "appartement",
      "wohnung", "appartamento", "attico", "bilocale", "trilocale"]
  | villa => ["villa", "villas", "chalet", "quinta", "mansion"]
  | house =>
    ["house", "houses", "home", "bungalow", "cottage", "townhouse", "detached", "semi-detached",
      "terraced", "casa", "casas", "adosado", "pareado", "maison", "haus", "einfamilienhaus",
      "reihenhaus", "moradia", "residence"]
  | land =>
    ["land", "plot", "plots", "lot", "terreno", "terrenos", "solar", "parcela", "rustica",
      "terrain", "grundstuck", "terreni"]
  | office =>
    ["office", "offices", "oficina", "oficinas", "bureau", "bureaux", "buro", "ufficio"]
  | commercial =>
    ["commercial", "retail", "shop", "store", "warehouse", "industrial", "local", "locales",
      "nave", "comercial", "commerce", "negozio", "gewerbe"]
  | garage =>
    ["garage", "garages", "parking", "garaje", "garajes", "plaza de garaje", "box",
      "stellplatz"]
  | storage =>
    ["storage", "storeroom", "trastero", "trasteros", "cave", "cantina", "lagerraum"]
  | other => []

/-- What is left of a text after a word written in either case. -/
def afterFolded? : List Char → List Char → Option (List Char)
  | [], cs => some cs
  | _ :: _, [] => none
  | w :: ws, c :: cs => if w == Text.foldChar c then afterFolded? ws cs else none

/-- The word stands in a text with no word character next to it; `before` is the character
in front of the text. -/
def hasWord (word : List Char) : Option Char → List Char → Bool
  | _, [] => false
  | before, c :: cs =>
    let here := match afterFolded? word (c :: cs) with
      | some rest => !before.any Text.isWord && !rest.head?.any Text.isWord
      | none => false
    here || hasWord word (some c) cs

/-- The first category with a word in the text. -/
def classify (text : String) : PropertyType :=
  let plain := (Text.withoutMarks text).toList
  (ranked.find? fun t => t.words.any fun w => hasWord w.toList none plain).getD other

end PropertyType

end Estate
