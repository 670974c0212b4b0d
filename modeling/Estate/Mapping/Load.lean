import Estate.Mapping
import Estate.Mapping.Lenient
import Estate.Rule.Load

/-!
Loading of mappings from documents, from texts with comments and trailing commas, and from values.
-/

namespace Estate

/-- A mapping as it is written. -/
structure MappingDocument where
  name : Option String
  textFields : Keyed RuleDocument
  intFields : Keyed RuleDocument
  floatFields : Keyed RuleDocument
  booleanFields : Keyed RuleDocument
  images : List RuleDocument
  features : List RuleDocument
  defaultValues : Json.Members
  expectedRate : Option Binary64
  portal : PortalInfo

namespace PortalInfo

def shape : Json.Shape :=
  [["hosts"], ["country"], ["currency"], ["locale"], ["areaUnit"], ["contentSource"]]

def ofTerm? : Nat → Json.Term → Option PortalInfo
  | 0, _ => none
  | d + 1, t => do
    let fields ← shape.read? t
    let text (name : String) : Option (Option String) :=
      fields.get? name none Json.Term.optionalString?
    return {
      hosts := ← fields.get? "hosts" [] (Json.Term.strings? d)
      country := ← text "country"
      currency := ← text "currency"
      locale := ← text "locale"
      areaUnit := ← text "areaUnit"
      contentSource := ← text "contentSource" }

end PortalInfo

namespace MappingDocument

def shape : Json.Shape :=
  [["name"], ["textFields"], ["intFields"], ["floatFields"], ["booleanFields"], ["images"],
    ["features"], ["defaultValues"], ["expectedExtractionRate"], ["portal"]]

/-- Rules by name, one level deeper; of several rules for one name the last stays. -/
def rules? (depth : Nat) : Json.Term → Option (Keyed RuleDocument)
  | .object members =>
    match depth with
    | 0 => none
    | d + 1 => do
      let pairs ← members.mapM fun (key, t) => do
        return (← key, ← RuleDocument.ofTerm? d t)
      return Keyed.ofList pairs
  | _ => none

def values? (depth : Nat) (t : Json.Term) : Option Json.Members :=
  match t with
  | .object _ => (t.value? depth).bind Json.Value.members?
  | _ => none

/-- A number or null. -/
def rate? : Json.Term → Option (Option Binary64)
  | .null => some none
  | .number n => n.map fun n => some n.toBinary64
  | _ => none

def ofTerm? : Nat → Json.Term → Option MappingDocument
  | 0, _ => none
  | d + 1, t => do
    let fields ← shape.read? t
    let group (name : String) : Option (Keyed RuleDocument) := fields.get? name [] (rules? d)
    let list (name : String) : Option (List RuleDocument) :=
      fields.get? name [] (Json.Term.list? d RuleDocument.ofTerm?)
    return {
      name := ← fields.get? "name" none Json.Term.optionalString?
      textFields := ← group "textFields"
      intFields := ← group "intFields"
      floatFields := ← group "floatFields"
      booleanFields := ← group "booleanFields"
      images := ← list "images"
      features := ← list "features"
      defaultValues := ← fields.get? "defaultValues" [] (values? d)
      expectedRate := ← fields.get? "expectedExtractionRate" none rate?
      portal := ← fields.get? "portal" .empty (PortalInfo.ofTerm? d) }

end MappingDocument

namespace Mapping

def loadGroup [Regex.Engine] (docs : Keyed RuleDocument) : Except MappingError (Keyed Rule) :=
  docs.mapM fun (name, doc) => do return (name, ← Rule.ofDocument name 0 doc)

/-- Rules of a list are named by their place in it. -/
def loadList [Regex.Engine] (label : String) (docs : List RuleDocument) :
    Except MappingError (List Rule) :=
  (docs.zipIdx).mapM fun (doc, i) => Rule.ofDocument s!"{label}[{i}]" 0 doc

def one : Binary64 := .ofNat 1

/-- The rate is checked before the rules, and the groups in the order of their declaration. A name
in the document goes before the given one unless it is blank. -/
def ofDocument [Regex.Engine] (name : String) (doc : MappingDocument) :
    Except MappingError Mapping := do
  match doc.expectedRate with
  | some rate =>
    if !(Binary64.zero.le rate && rate.le one) then throw (.rateOutOfRange rate)
  | none => pure ()
  let textFields ← loadGroup doc.textFields
  let intFields ← loadGroup doc.intFields
  let floatFields ← loadGroup doc.floatFields
  let booleanFields ← loadGroup doc.booleanFields
  let images ← loadList "images" doc.images
  let features ← loadList "features" doc.features
  return {
    name := (doc.name.filter fun n => (Text.nonBlank? n).isSome).getD name
    textFields, intFields, floatFields, booleanFields, images, features
    defaultValues := doc.defaultValues
    expectedRate := doc.expectedRate
    portal := doc.portal }

/-- The mapping that a term writes, of which so many levels are read. -/
def ofTerm [Regex.Engine] (name : String) (depth : Nat) (t : Json.Term) :
    Except MappingError Mapping :=
  match MappingDocument.ofTerm? depth t with
  | some doc => ofDocument name doc
  | none => .error .malformed

/-- A mapping from a strict JSON text. -/
def ofText [Regex.Engine] (name text : String) : Except MappingError Mapping :=
  match Json.Term.ofText? text with
  | some t => ofTerm name Json.depthLimit t
  | none => .error .malformed

/-- A mapping from a JSON text with comments and trailing commas. -/
def ofLenientText [Regex.Engine] (name text : String) : Except MappingError Mapping :=
  ofText name (Lenient.clean text)

/-- A mapping from a value, which may be nested at any depth. -/
def ofValue [Regex.Engine] (name : String) (v : Json.Value) : Except MappingError Mapping :=
  let t := Json.Term.ofValue v
  ofTerm name t.depth t

end Mapping

end Estate
