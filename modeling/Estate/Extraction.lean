import Estate.Coverage
import Estate.Derivation
import Estate.FieldValue
import Estate.Fingerprint
import Estate.Gallery
import Estate.Options

/-!
Extraction of a listing: what the rules of a mapping find in a page is put into a record, scored,
completed and fingerprinted. A rule that fails leaves its field empty and nothing else.
-/

namespace Estate

/-- How a field got its value. -/
inductive FieldStatus where
  | populated
  | empty
  /-- Nothing was found, and the mapping has a value for that case. -/
  | defaulted
  /-- Nothing was found, and something went wrong. -/
  | errored
deriving DecidableEq

def FieldStatus.name : FieldStatus → String
  | populated => "populated"
  | empty => "empty"
  | defaulted => "defaulted"
  | errored => "errored"

structure FieldTrace where
  field : String
  kind : Option LocatorKind
  fallbackPath : List Nat
  status : FieldStatus
  error : Option LookupError

/-- What was found in a page for the rules of a mapping. -/
structure Findings where
  fields : List (Field × Resolution)
  images : List Picture
  features : List String

def Findings.ofReader {m : Type → Type} [Monad m] (reader : Page.Reader m) (mapping : Mapping)
    (options : Options) : m Findings := do
  let fields ← mapping.fields.mapM fun f => return (f, ← f.rule.trace reader)
  let images ← Gallery.pictures reader options.imagePolicy mapping.images
  let features ← Gallery.features reader mapping.features
  return { fields, images, features }

/-- A record in the making, and the traces of its fields. -/
structure Draft where
  record : Json.Members
  traces : List FieldTrace

namespace Draft

def statusOf (r : Resolution) : FieldStatus :=
  if !r.isEmpty then .populated else if r.errors.isEmpty then .empty else .errored

def traceOf (f : Field) (r : Resolution) : FieldTrace where
  field := f.name
  kind := r.kind
  fallbackPath := r.fallbackPath
  status := statusOf r
  error := r.errors.head?

/-- The value of a field, if one was found. -/
def put (record : Json.Members) (f : Field) (r : Resolution) : Json.Members :=
  match r.first? with
  | some text => Keyed.insert record f.name (f.valueOf text)
  | none => record

/-- The fields of one value; of fields with one name the last that was found stays. -/
def ofFields (found : List (Field × Resolution)) : Draft where
  record := found.foldl (fun record e => put record e.1 e.2) []
  traces := found.map fun e => traceOf e.1 e.2

/-- Put a list under a key. -/
def putList (key : String) (texts : List String) (d : Draft) : Draft :=
  { d with record := Keyed.insert d.record key (.ofStrings texts) }

/-- Lists stand in the record, be they empty, where the mapping has rules for them. -/
def withLists (m : Mapping) (found : Findings) (d : Draft) : Draft :=
  let d := if m.images.isEmpty then d else d.putList imagesKey (found.images.map (·.address))
  if m.features.isEmpty then d else d.putList featuresKey found.features

/-- The first trace of a field says that it got its value by default. -/
def markDefaulted (field : String) : List FieldTrace → List FieldTrace
  | [] => []
  | t :: ts =>
    if t.field == field then { t with status := .defaulted } :: ts
    else t :: markDefaulted field ts

theorem markDefaulted_here {t : FieldTrace} {key : String} (h : t.field = key)
    (ts : List FieldTrace) :
    markDefaulted key (t :: ts) = { t with status := .defaulted } :: ts := by
  rw [markDefaulted, if_pos (beq_iff_eq.2 h)]

theorem markDefaulted_behind {t : FieldTrace} {key : String} (h : t.field ≠ key)
    (ts : List FieldTrace) : markDefaulted key (t :: ts) = t :: markDefaulted key ts := by
  rw [markDefaulted, if_neg (by simpa using h)]

/-- A value takes the place of nothing. -/
def withDefault (d : Draft) (key : String) (v : Json.Value) : Draft :=
  if (Keyed.get? d.record key).any Json.Value.isPopulated then d
  else ⟨Keyed.insert d.record key v, markDefaulted key d.traces⟩

def withDefaults (values : Json.Members) (d : Draft) : Draft :=
  values.foldl (fun d e => d.withDefault e.1 e.2) d

def ofFindings (m : Mapping) (found : Findings) : Draft :=
  ((ofFields found.fields).withLists m found).withDefaults m.defaultValues

end Draft

/-- A listing that was extracted, by the mapping of a name. -/
structure Extraction where
  mapping : String
  record : Json.Members
  coverage : Coverage
  traces : Option (List FieldTrace)
  fingerprint : Option String

namespace Extraction

/-- The record is scored before anything is derived from it, and fingerprinted after. -/
def ofFindings (address : String) (m : Mapping) (options : Options) (found : Findings) :
    Extraction :=
  let draft := Draft.ofFindings m found
  let record := Derivation.all m.portal address draft.record
  { mapping := m.name
    record := record
    coverage := .assess draft.record m
    traces := if options.traceFields then some draft.traces else none
    fingerprint := Fingerprint.compute? record }

/-- The listing in a page, by a reader that remembers. -/
def ofPage (page : Page) (m : Mapping) (options : Options) : Extraction :=
  let (found, _) := (Findings.ofReader page.rememberingReader m options).run .empty
  ofFindings page.address m options found

/-- The listing in the text of a page. -/
def ofText (source address : String) (m : Mapping) (options : Options) : Extraction :=
  ofPage (Page.read source address options.flightDepth) m options

end Extraction

end Estate
