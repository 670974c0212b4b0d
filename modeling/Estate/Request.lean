import Estate.Extraction.Report
import Estate.Mapping.Load
import Estate.Regex.Weight

/-!
Requests for an extraction that carry all they need: the bytes of a page, and the bytes of a JSON
text with the address of the page, a mapping and options.
-/

namespace Estate

structure Request where
  address : String
  mapping : Json.Value
  name : Option String
  options : Options

namespace Request

/-- Why a request is not answered. -/
inductive Fault where
  | pageEncoding
  | missing
  | encoding
  | malformed
  | mapping (e : MappingError)

def shape : Json.Shape := [["sourceUrl"], ["mapping"], ["mappingName"], ["options"]]

def ofTerm? (depth : Nat) (t : Json.Term) : Option Request :=
  match depth with
  | 0 => none
  | d + 1 => do
    let fields ← shape.read? t
    return {
      address := ← (fields.lookup "sourceUrl").bind Json.Term.string?
      mapping := ← (fields.lookup "mapping").bind (·.value? d)
      name := ← fields.get? "mappingName" none Json.Term.optionalString?
      options := ← fields.get? "options" .standard (Options.ofTerm? d) }

/-- The request as it is written in full. -/
def toJson (r : Request) : Json.Value :=
  .object [("mapping", r.mapping), ("mappingName", (r.name.map .string).getD .null),
    ("options", r.options.toJson), ("sourceUrl", .string r.address)]

def ofText? (s : String) : Option Request := (Json.Term.ofText? s).bind (ofTerm? Json.depthLimit)

/-- The bytes before the first zero byte, which ends a text that is handed over. -/
def untilZero (bytes : List UInt8) : List UInt8 := bytes.takeWhile (· != 0)

def ofBytes (bytes : Option (List UInt8)) : Except Fault Request :=
  match bytes with
  | none => .error .missing
  | some bytes =>
    match Text.ofBytes? (untilZero bytes) with
    | none => .error .encoding
    | some s =>
      match ofText? s with
      | none => .error .malformed
      | some r => .ok r

def extraction [Regex.Engine] (r : Request) (page : String) : Except MappingError Extraction :=
  (Mapping.ofValue (r.name.getD "inline") r.mapping).map fun m =>
    .ofText page r.address m r.options

/-- The answer to a request. The page is looked at before the request; no bytes are an empty
page. -/
def answer [Regex.Engine] (page request : Option (List UInt8)) : Except Fault Json.Value := do
  match Text.ofBytes? (page.getD []) with
  | none => throw .pageEncoding
  | some text =>
    let r ← ofBytes request
    match r.extraction text with
    | .ok e => return e.toJson
    | .error e => throw (.mapping e)

/-- A text without zero characters, for which spaces stand. -/
def withoutZeros (s : String) : String :=
  .ofList (s.toList.map fun c => if c == '\x00' then ' ' else c)

def Fault.message : Fault → String
  | pageEncoding => "Invalid UTF-8 in HTML content"
  | missing => "Request JSON is null"
  | encoding => "Invalid UTF-8 in request JSON"
  | malformed => "Failed to parse request JSON"
  | mapping e => (e.mapName withoutZeros).message

/-- What is handed back: a result or a message, as texts that end at a zero character. -/
structure Reply where
  json : Option String
  error : Option String
deriving DecidableEq

def Reply.ofError (message : String) : Reply := ⟨none, some message⟩

def Reply.ofResult (text : String) : Reply :=
  if '\x00' ∈ text.toList then ofError "Result JSON contains null bytes" else ⟨some text, none⟩

def reply [Regex.Engine] (page request : Option (List UInt8)) : Reply :=
  match answer page request with
  | .ok v => .ofResult v.toText
  | .error e => .ofError e.message

end Request

end Estate
