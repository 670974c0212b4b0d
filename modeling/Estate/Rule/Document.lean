import Estate.Json.Shape
import Estate.Rule

/-!
Rules as they are written in a mapping document.
-/

namespace Estate

/-- The keys of a rule, apart from its fallbacks, with what is written for them. -/
structure RuleKeys where
  cssLocator : Option String
  cssAttr : Option String
  xmlAttr : Option String
  cssCountId : Option String
  scriptRegEx : Option String
  scriptJsonVar : Option String
  scriptJsonPath : Option String
  flightDataPath : Option String
  jsonLdType : Option String
  jsonLdPath : Option String
  urlPathPart : Option String
  splitTextCharacter : Option String
  splitTextArrayId : Option String
  stripString : Option String
  stripFirstChar : Bool
  caseInsensitive : Bool
  modifiers : List String
  thumbnailPatterns : List ThumbnailPattern
  imagePathPrefix : Option String
  evaluator : Option String
  evaluatorParam : Option String

inductive RuleDocument where
  | mk (keys : RuleKeys) (fallbacks : List RuleDocument)

namespace RuleDocument

/-- The keys in the order in which an array gives their values. -/
def shape : Json.Shape :=
  [["cssLocator"], ["cssAttr"], ["xmlAttr"], ["cssCountId"], ["scriptRegEx", "scriptRegex"],
    ["scriptJsonVar"], ["scriptJsonPath"], ["flightDataPath"], ["jsonLdType"], ["jsonLdPath"],
    ["urlPathPart"], ["splitTextCharacter"], ["splitTextArrayId"], ["stripString"],
    ["stripFirstChar"], ["caseInsensitive"], ["modifiers"], ["fallbacks"],
    ["thumbnailPatterns"], ["imagePathPrefix"], ["evaluator"], ["evaluatorParam"]]

def thumbnailShape : Json.Shape := [["pattern"], ["replacement"]]

def thumbnail? : Nat → Json.Term → Option ThumbnailPattern
  | 0, _ => none
  | _ + 1, t => do
    let fields ← thumbnailShape.read? t
    let pattern ← (← fields.lookup "pattern").string?
    let replacement ← fields.get? "replacement" "" Json.Term.string?
    return ⟨pattern, replacement⟩

def keys? (depth : Nat) (fields : Json.Fields) : Option RuleKeys := do
  let text (name : String) : Option (Option String) :=
    fields.get? name none Json.Term.optionalString?
  let index (name : String) : Option (Option String) :=
    fields.get? name none (Json.Term.stringOrNumber? depth)
  let flag (name : String) : Option Bool :=
    fields.get? name false (Json.Term.flexibleBool? depth)
  return {
    cssLocator := ← text "cssLocator"
    cssAttr := ← text "cssAttr"
    xmlAttr := ← text "xmlAttr"
    cssCountId := ← index "cssCountId"
    scriptRegEx := ← text "scriptRegEx"
    scriptJsonVar := ← text "scriptJsonVar"
    scriptJsonPath := ← text "scriptJsonPath"
    flightDataPath := ← text "flightDataPath"
    jsonLdType := ← text "jsonLdType"
    jsonLdPath := ← text "jsonLdPath"
    urlPathPart := ← index "urlPathPart"
    splitTextCharacter := ← text "splitTextCharacter"
    splitTextArrayId := ← index "splitTextArrayId"
    stripString := ← text "stripString"
    stripFirstChar := ← flag "stripFirstChar"
    caseInsensitive := ← flag "caseInsensitive"
    modifiers := ← fields.get? "modifiers" [] (Json.Term.strings? depth)
    thumbnailPatterns := ←
      fields.get? "thumbnailPatterns" [] (Json.Term.list? depth thumbnail?)
    imagePathPrefix := ← text "imagePathPrefix"
    evaluator := ← text "evaluator"
    evaluatorParam := ← text "evaluatorParam" }

/-- The rule that a term writes, in a document of which so many levels are left. -/
def ofTerm? : Nat → Json.Term → Option RuleDocument
  | 0, _ => none
  | d + 1, t => do
    let fields ← shape.read? t
    let keys ← keys? d fields
    match fields.lookup "fallbacks" with
    | none => return .mk keys []
    | some (.array items) =>
      match d with
      | 0 => none
      | e + 1 => return .mk keys (← items.mapM (ofTerm? e))
    | some _ => none

end RuleDocument

end Estate
