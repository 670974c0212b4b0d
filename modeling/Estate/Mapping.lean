import Estate.Json.Value
import Estate.Rule

/-!
Mappings: the rules by which the listings of one portal are read.
-/

namespace Estate

/-- What is known of a portal beside its rules. -/
structure PortalInfo where
  hosts : List String
  country : Option String
  currency : Option String
  locale : Option String
  areaUnit : Option String
  contentSource : Option String

def PortalInfo.empty : PortalInfo := ⟨[], none, none, none, none, none⟩

/-- The type of the values of a field. -/
inductive FieldKind where
  | text
  | int
  | float
  | boolean
deriving DecidableEq

def FieldKind.name : FieldKind → String
  | text => "text"
  | int => "int"
  | float => "float"
  | boolean => "boolean"

structure Mapping where
  name : String
  textFields : Keyed Rule
  intFields : Keyed Rule
  floatFields : Keyed Rule
  booleanFields : Keyed Rule
  images : List Rule
  features : List Rule
  defaultValues : Json.Members
  /-- The share of fields that is normally found, from 0 to 1. -/
  expectedRate : Option Binary64
  portal : PortalInfo

/-- A field of one value that a mapping declares. -/
structure Field where
  name : String
  kind : FieldKind
  rule : Rule

namespace Mapping

def group (kind : FieldKind) (rules : Keyed Rule) : List Field :=
  rules.map fun (name, rule) => ⟨name, kind, rule⟩

/-- All fields of one value: the texts, then integers, floats and booleans. -/
def fields (m : Mapping) : List Field :=
  group .text m.textFields ++ group .int m.intFields ++ group .float m.floatFields ++
    group .boolean m.booleanFields

/-- How many fields can be filled; images and features count as one each where they have rules. -/
def totalFields (m : Mapping) : Nat :=
  m.fields.length + (if m.images.isEmpty then 0 else 1) + (if m.features.isEmpty then 0 else 1)

end Mapping

end Estate
